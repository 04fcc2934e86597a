import Preseed.Proofs.Directory.Values
import Preseed.Proofs.Text.Edits

/-! # What a look-up of classes depends on

In a directory that answers, a look-up gives what each entry gives, one entry after another: the classes of
an entry that passes, and nothing of another. It heeds no case of what is looked for, and no character there
stands for others. -/

namespace Preseed

theorem Scope.isBelow_congr {base base' : String} (h : Ascii.eqIgnoreCase base base' = true)
    (dn : String) : IsBelow base dn ↔ IsBelow base' dn := by
  rw [Ascii.eqIgnoreCase, beq_iff_eq] at h
  rw [← contains_subtree_iff, ← contains_subtree_iff, contains, contains, h]

namespace ClassLookup

/-- Look-ups that differ at most in the case of ASCII letters. -/
structure Alike (lookup lookup' : ClassLookup) : Prop where
  baseDn : Ascii.eqIgnoreCase lookup.baseDn lookup'.baseDn = true
  objectClass : Ascii.eqIgnoreCase lookup.objectClass lookup'.objectClass = true
  memberAttribute : Ascii.eqIgnoreCase lookup.memberAttribute lookup'.memberAttribute = true
  classAttribute : Ascii.eqIgnoreCase lookup.classAttribute lookup'.classAttribute = true

/-- The classes that an entry gives a client. -/
def given (lookup : ClassLookup) (client : String) (e : Entry) : List String :=
  if lookup.Passes client e then e.values lookup.classAttribute else []

variable {lookup lookup' : ClassLookup} {client client' : String}

theorem given_of_not_passes {e : Entry} (h : ¬ lookup.Passes client e) : lookup.given client e = [] :=
  if_neg h

theorem classes_eq {d : Directory} (h : d.searchError = none) (lookup : ClassLookup)
    (client : String) :
    lookup.classes d.session client = .ok (d.entries.flatMap (lookup.given client)) := by
  have hsearch : d.session.search (lookup.request client) =
      .ok (d.entries.filter (lookup.Passes client ·)) := by
    change d.search (lookup.request client) = _
    rw [Directory.search, h]
    refine congrArg Except.ok (List.filter_congr fun e _ => ?_)
    rw [Bool.eq_iff_iff, found_iff_passes, decide_eq_true_iff]
  rw [classes, hsearch]
  refine congrArg Except.ok ((flatMap_filter_eq ..).trans ?_)
  simp only [decide_eq_true_iff]
  rfl

theorem Alike.passes_iff (h : lookup.Alike lookup')
    (hclient : Ascii.eqIgnoreCase client client' = true) (e : Entry) :
    lookup.Passes client e ↔ lookup'.Passes client' e := by
  rw [ClassLookup.passes_iff, ClassLookup.passes_iff, Scope.isBelow_congr h.baseDn,
    Entry.values_congr h.memberAttribute]
  simp only [Ascii.eqIgnoreCase_congr h.objectClass, Ascii.eqIgnoreCase_congr hclient]

theorem Alike.given_eq (h : lookup.Alike lookup')
    (hclient : Ascii.eqIgnoreCase client client' = true) :
    lookup.given client = lookup'.given client' := by
  funext e
  simp only [given, h.passes_iff hclient, Entry.values_congr h.classAttribute]

/-- In a directory that answers, a look-up gives what each entry gives, in the order of the entries. Letters
of another case in the client's name, the base, the object class or the names of attributes change nothing, and
nor do entries that do not pass, wherever they are added or taken away. The entries up to any point give the
first classes, and those from there on the others. -/
theorem classes_by_entries {d : Directory} (h : d.searchError = none) (lookup : ClassLookup)
    (client : String) :
    let classesIn (entries : List Entry) := lookup.classes { d with entries }.session client
    classesIn d.entries = .ok (d.entries.flatMap (lookup.given client)) ∧
    (∀ (lookup' : ClassLookup) (client' : String), lookup.Alike lookup' →
      Ascii.eqIgnoreCase client client' = true →
        lookup'.classes d.session client' = lookup.classes d.session client) ∧
    (∀ entries, SameBut (fun e => ¬ lookup.Passes client e) d.entries entries →
      classesIn entries = classesIn d.entries) ∧
    ∀ front back, d.entries = front ++ back → ∃ first others,
      classesIn front = .ok first ∧ classesIn back = .ok others ∧
        classesIn d.entries = .ok (first ++ others) := by
  intro classesIn
  have hclasses (entries : List Entry) :
      classesIn entries = .ok (entries.flatMap (lookup.given client)) :=
    classes_eq (d := { d with entries }) h lookup client
  refine ⟨hclasses d.entries, ?_, ?_, ?_⟩
  · intro lookup' client' halike hclient
    rw [classes_eq h, classes_eq h, halike.given_eq hclient]
  · intro entries hsame
    rw [hclasses, hclasses, hsame.flatMap_eq fun e => given_of_not_passes]
  · intro front back hsplit
    refine ⟨_, _, hclasses front, hclasses back, ?_⟩
    rw [hclasses, hsplit, List.flatMap_append]

/-- The name has characters that are special in filters, and the class of a client whose name would match them
does not pass. -/
theorem classes_by_entries_of_asterisk :
    let gpu : Entry :=
      { dn := "CN=gpu,O=Lab"
        attributes := [("CN", ["gpu", "web"]), ("OBJECTCLASS", ["PreseedObject"]), ("cn", ["hidden"]),
          ("preseedvalue", ["HOST(*)"])] }
    let other : Entry :=
      { dn := "cn=other,o=lab"
        attributes := [("cn", ["other"]), ("objectClass", ["preseedObject"]),
          ("preseedValue", ["host(7)"])] }
    let db : Entry :=
      { dn := "cn=db,o=lab"
        attributes := [("cn", ["db"]), ("objectClass", ["preseedObject"]),
          ("preseedValue", ["host(*)"])] }
    let elsewhere : Entry := { db with dn := "cn=db,o=labs" }
    let d := Directory.ofEntries [gpu, other, db]
    let lookup : ClassLookup :=
      { baseDn := "o=lab", objectClass := "preseedObject", memberAttribute := "preseedValue"
        classAttribute := "cn" }
    let lookup' : ClassLookup :=
      { baseDn := "O=LAB", objectClass := "PRESEEDOBJECT", memberAttribute := "PreseedValue"
        classAttribute := "Cn" }
    d.searchError = none ∧ lookup.Alike lookup' ∧
      SameBut (fun e => ¬ lookup.Passes "host(*)" e) d.entries [elsewhere, gpu, db] ∧
      lookup.classes d.session "host(*)" = .ok ["gpu", "web", "db"] ∧
      lookup'.classes d.session "HOST(*)" = .ok ["gpu", "web", "db"] ∧
      lookup.classes (Directory.ofEntries [elsewhere, gpu, db]).session "host(*)" =
        .ok ["gpu", "web", "db"] := by
  intro gpu other db elsewhere d lookup lookup'
  have halike : lookup.Alike lookup' := ⟨by decide, by decide, by decide, by decide⟩
  have hother : ¬ lookup.Passes "host(*)" other := by decide +kernel
  have helsewhere : ¬ lookup.Passes "host(*)" elsewhere := by decide +kernel
  have hsame : SameBut (fun e => ¬ lookup.Passes "host(*)" e) d.entries [elsewhere, gpu, db] :=
    .added helsewhere (.kept gpu (.removed hother (.kept db .nil)))
  have hgiven : d.entries.flatMap (lookup.given "host(*)") = ["gpu", "web", "db"] := by decide +kernel
  obtain ⟨hclasses, hcase, hentries, -⟩ := classes_by_entries (d := d) rfl lookup "host(*)"
  rw [hgiven] at hclasses
  exact ⟨rfl, halike, hsame, hclasses, (hcase lookup' "HOST(*)" halike (by decide)).trans hclasses,
    (hentries _ hsame).trans hclasses⟩

end ClassLookup

end Preseed
