import Preseed.Proofs.Net.HardwareTable
import Preseed.Proofs.Record.Fields
import Preseed.Service.Resolver

/-! # The hardware addresses of neighbours

An address that the command shows is in normal form, whatever the command writes. The table's is so only if
the table has hexadecimal digits there, since no digit of it is looked at. -/

namespace Preseed.Resolver

open Net Hardware

/-- The command's output shows this address. -/
def Shown (command : List String → Option String) (ip : Address) (mac : String) : Prop :=
  ∃ output, command (arpArguments ip) = some output ∧ find? output = some mac

/-- The table lists this text for the client, and this address is made of it. -/
def Tabled (settings : ResolverSettings) (files : FileTree) (ip : Address) (field : List Char)
    (mac : String) : Prop :=
  ∃ table, files.read settings.arpTable = .ok table ∧ Lists table ip field ∧
    normalize? field = some mac.toList

variable {settings : ResolverSettings} {files : FileTree} {command : List String → Option String}
  {ip : Address} {mac : String}

theorem tabled_or_shown (h : neighbour settings files command ip = some mac) :
    (∃ field, Tabled settings files ip field mac) ∨ Shown command ip mac := by
  unfold neighbour at h
  split at h
  · cases h
  dsimp only at h
  split at h
  · rename_i found hlisted
    obtain rfl := Option.some.inj h
    obtain ⟨table, hread, hfound⟩ := Option.bind_eq_some_iff.mp hlisted
    obtain ⟨field, hlists, hnormal⟩ := exists_of_ofTable? hfound
    exact .inl ⟨field, table, eq_ok_of_toOption hread, hlists, hnormal⟩
  · exact .inr (Option.bind_eq_some_iff.mp h)

/-- Every neighbour's address has six groups of two plain characters. It is in normal form and safe if the
command shows it; the table's is in normal form if and only if the table has digits and separators only, and
safe if and only if the table's text is. -/
theorem form_of_neighbour (h : neighbour settings files command ip = some mac) :
    InGroups IsPlain mac.toList ∧
      ((Shown command ip mac ∧ IsNormal mac ∧ isSafe mac = true) ∨
        ∃ field, Tabled settings files ip field mac ∧
          (IsNormal mac ↔ ∀ c ∈ field, isSeparator c = true ∨ Ascii.isHexDigit c = true) ∧
          (isSafe mac = true ↔ ∀ c ∈ field, isSafeChar c = true)) := by
  rcases tabled_or_shown h with ⟨field, htabled⟩ | hshown
  · obtain ⟨-, -, -, hnormal⟩ := id htabled
    exact ⟨inGroups_isPlain hnormal,
      .inr ⟨field, htabled, isNormal_iff hnormal, isSafe_iff_of_normalize? hnormal⟩⟩
  · have hnormal : IsNormal mac := hshown.elim fun _ houtput => isNormal_of_find? houtput.2
    exact ⟨hnormal.isPlain, .inl ⟨hshown, hnormal, hnormal.isSafe⟩⟩

/-- Without a table, the command's line has groups of one digit and capitals. -/
theorem form_of_neighbour_of_output :
    let command := fun arguments : List String =>
      if arguments = ["-a", "-n", "10.0.0.5"] then some "? (10.0.0.5) at 0:1B:21:a:b:c on em0\n"
      else none
    neighbour {} {} command (.v4 ⟨10, 0, 0, 5⟩) = some "00:1b:21:0a:0b:0c" ∧
      IsNormal "00:1b:21:0a:0b:0c" ∧ isSafe "00:1b:21:0a:0b:0c" = true := by
  intro command
  have hfound : neighbour {} {} command (.v4 ⟨10, 0, 0, 5⟩) = some "00:1b:21:0a:0b:0c" := by
    decide +kernel
  rcases (form_of_neighbour hfound).2 with ⟨-, hnormal⟩ | ⟨-, ⟨table, hread, -⟩, -⟩
  · exact ⟨hfound, hnormal⟩
  · have hmissing : (({} : FileTree).read ({} : ResolverSettings).arpTable).toOption = none := by
      decide +kernel
    rw [hread] at hmissing
    cases hmissing

/-- Six groups of two characters are enough for the table, and a shell takes these for a command. -/
theorem neighbour_not_normal :
    let table := "IP address HW type Flags HW address Mask Device\n" ++
      "10.0.0.5 0x1 0x2 $(:id:);:zz:zz:zz * eth0\n"
    let files := ({} : FileTree).add "/proc/net/arp" (.file (Utf8.ofString table))
    neighbour {} files (fun _ => none) (.v4 ⟨10, 0, 0, 5⟩) = some "$(:id:);:zz:zz:zz" ∧
      ¬ IsNormal "$(:id:);:zz:zz:zz" ∧ isSafe "$(:id:);:zz:zz:zz" = false := by
  intro table files
  have hactive : isSafe "$(:id:);:zz:zz:zz" = false := by decide +kernel
  refine ⟨by decide +kernel, fun hnormal => ?_, hactive⟩
  exact absurd hnormal.isSafe (by rw [hactive]; decide)

end Preseed.Resolver
