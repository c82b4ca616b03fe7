import ScriptFormat.Source
import ScriptFormat.Proofs.FileTree.Rewriting
import ScriptFormat.Proofs.Text.Utf8

/-!
# Text files

Where a file can be read, writing a text to it gives it new content and changes no
other entry. It then holds the encoded text, or nothing if the text has no encoding.
-/

namespace ScriptFormat.FileTree

/-- The same entries at the same places, of which the files may differ in content. -/
structure SameEntries (before after : FileTree) : Prop where
  start : after.start = before.start
  directory : ∀ place, after.node? place = some .directory ↔ before.node? place = some .directory
  link : ∀ place target,
    after.node? place = some (.link target) ↔ before.node? place = some (.link target)
  file : ∀ place, (∃ content, after.node? place = some (.file content)) ↔
    ∃ content, before.node? place = some (.file content)

theorem SameEntries.refl (tree : FileTree) : tree.SameEntries tree where
  start := rfl
  directory _ := Iff.rfl
  link _ _ := Iff.rfl
  file _ := Iff.rfl

section Contents

variable {tree : FileTree} {route : Route} {place : Place} {old : Bytes}

theorem Holds.sameEntries (holds : tree.Holds route place old) (content : Bytes) :
    tree.SameEntries (tree.set place (.file content)) where
  start := rfl
  directory other := by
    by_cases same : other = place
    · rw [same, holds.node, node?_set_eq holds.fillable]
      simp
    · rw [node?_set_ne tree _ same]
  link other target := by
    by_cases same : other = place
    · rw [same, holds.node, node?_set_eq holds.fillable]
      simp
    · rw [node?_set_ne tree _ same]
  file other := by
    by_cases same : other = place
    · rw [same, holds.node, node?_set_eq holds.fillable]
      simp
    · rw [node?_set_ne tree _ same]

end Contents

section Texts

variable {tree : FileTree} {path : Path} {place : Place}

theorem readText_eq_ok_iff {source : Text} :
    tree.readText path = .ok source ↔
      ∃ content, tree.read path.route = .ok content ∧ Utf8.decode content = .ok source := by
  unfold readText
  cases tree.read path.route with
  | error fault => simp
  | ok content => cases decoded : Utf8.decode content <;> simp [decoded]

/-- What becomes of a text written to a path that opens. -/
theorem writeText_of_writable (writable : tree.writable path.route = .ok place) (text : Text) :
    tree.writeText path text =
      match Utf8.encode text with
      | .ok content => (.ok (), tree.set place (.file content))
      | .error fault => (.error (.unencodable fault), tree.set place (.file [])) := by
  unfold writeText
  cases Utf8.encode text with
  | ok content => rw [writable]
  | error fault => rw [writable]

/-- A text is written exactly if its path opens and it has an encoding, which the file then
holds. -/
theorem writeText_eq_ok_iff {text : Text} {after : FileTree} :
    tree.writeText path text = (.ok (), after) ↔
      ∃ place content, tree.writable path.route = .ok place ∧
        Utf8.encode text = .ok content ∧ after = tree.set place (.file content) := by
  unfold writeText
  cases tree.writable path.route with
  | error fault => simp
  | ok place => cases Utf8.encode text <;> simp [eq_comm]

end Texts

end ScriptFormat.FileTree
