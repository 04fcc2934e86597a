import Preseed.Client.Params
import Preseed.Net.Address
import Preseed.Proofs.Text.Ascii
import Preseed.Proofs.Text.Split

/-! # The text of an address

It is made of letters, digits, dots and colons, so it is safe wherever a request's values are. -/

namespace Preseed

theorem isSafeChar_of_isAlphanumeric {c : Char} (h : Ascii.isAlphanumeric c = true) :
    isSafeChar c = true := by
  simp [isSafeChar, h]

namespace Net

theorem IPv4.isSafeChar_toChars (x : IPv4) : ∀ c ∈ x.toChars, isSafeChar c = true := by
  have hdigits : ∀ n, ∀ c ∈ Nat.toDigits 10 n, isSafeChar c = true := fun n c hc =>
    isSafeChar_of_isAlphanumeric (Ascii.isAlphanumeric_toDigits (by decide) (by decide) c hc)
  intro c hc
  simp only [toChars, List.mem_append, List.mem_cons] at hc
  rcases hc with hc | rfl | hc | rfl | hc | rfl | hc
  · exact hdigits _ c hc
  · decide
  · exact hdigits _ c hc
  · decide
  · exact hdigits _ c hc
  · decide
  · exact hdigits _ c hc

theorem IPv6.isSafeChar_joinGroups (groups : List UInt16) :
    ∀ c ∈ joinGroups groups, isSafeChar c = true := by
  intro c hc
  rcases Split.mem_of_mem_intercalate hc with hc | ⟨part, hpart, hc⟩
  · obtain rfl := List.mem_singleton.mp hc
    decide
  · obtain ⟨g, -, rfl⟩ := List.mem_map.mp hpart
    exact isSafeChar_of_isAlphanumeric (Ascii.isAlphanumeric_toDigits (by decide) (by decide) c hc)

theorem IPv6.isSafeChar_toHexChars (x : IPv6) : ∀ c ∈ x.toHexChars, isSafeChar c = true := by
  intro c hc
  unfold toHexChars at hc
  dsimp only at hc
  split at hc
  · simp only [List.mem_append, List.mem_cons] at hc
    rcases hc with hc | rfl | rfl | hc
    · exact isSafeChar_joinGroups _ c hc
    · decide
    · decide
    · exact isSafeChar_joinGroups _ c hc
  · exact isSafeChar_joinGroups _ c hc

theorem IPv6.isSafeChar_toChars (x : IPv6) : ∀ c ∈ x.toChars, isSafeChar c = true := by
  intro c hc
  unfold toChars at hc
  split at hc
  · rcases List.mem_append.mp hc with hc | hc
    · exact List.all_eq_true.mp (by decide : "::ffff:".toList.all isSafeChar = true) c hc
    · exact IPv4.isSafeChar_toChars _ c hc
  · exact isSafeChar_toHexChars x c hc

theorem Address.isSafe_toString (x : Address) : isSafe x.toString = true := by
  rw [isSafe, Address.toString, String.toList_ofList, List.all_eq_true]
  cases x with
  | v4 x => exact IPv4.isSafeChar_toChars x
  | v6 x => exact IPv6.isSafeChar_toChars x

end Net

end Preseed
