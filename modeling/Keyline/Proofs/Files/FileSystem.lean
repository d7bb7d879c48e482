import Keyline.Store

/-!
# File systems

A `FileSystem` is a way to reach files together with what a program can tell of it. Paths lead to files, several of them
perhaps to one file; a file holds something, and some of what it can hold is read as a text. Reading changes nothing. A
write that has worked, to a file that could be read, has changed the text of that file and nothing else. The state may
remember more than that, such as when a file was written last.

A `Store` is such a file system (`Store.fileSystem`). Its files are locations, and the paths to one location differ in
their dots; a write never turns a directory into a file, so every path leads where it led before (`Store.resolve?_put`).
What is not locked there can be written (`Store.writeText_of_not_isLocked`).
-/

namespace Keyline

/-- A way to reach files, and what it does. -/
structure FileSystem where
  /-- What the file system remembers. -/
  State : Type
  /-- The files, whatever paths lead to them. -/
  File : Type
  /-- What a file can hold. -/
  Content : Type
  /-- The file to which a path leads. -/
  file? : State → Path → Option File
  content : State → File → Content
  /-- The text that a content is read as; none if it cannot be read or is no text. -/
  text? : Content → Option Text
  access : FileAccess (StateM State)
  run_readText : ∀ s path, (access.readText path).run s = ((file? s path).bind fun f => text? (content s f), s)
  run_writeText : ∀ {s s' path f old new}, file? s path = some f → text? (content s f) = some old →
    (access.writeText path new).run s = (true, s') →
    (∀ p, file? s' p = file? s p) ∧ text? (content s' f) = some new ∧ ∀ g, g ≠ f → content s' g = content s g

namespace FileSystem

variable (fs : FileSystem)

/-- The text in the file to which a path leads. -/
def read? (s : fs.State) (path : Path) : Option Text := (fs.file? s path).bind fun f => fs.text? (fs.content s f)

/-- Whether a path leads to a file that can be read as a text. -/
def Readable (s : fs.State) (path : Path) : Prop := ∃ t, fs.read? s path = some t

variable {fs} {s s' : fs.State}

theorem read?_eq_some_iff {path : Path} {t : Text} :
    fs.read? s path = some t ↔ ∃ f, fs.file? s path = some f ∧ fs.text? (fs.content s f) = some t :=
  Option.bind_eq_some_iff

/-- Paths to one file are read alike. -/
theorem read?_congr {path other : Path} (h : fs.file? s path = fs.file? s other) :
    fs.read? s path = fs.read? s other := by
  rw [read?, read?, h]

theorem not_readable_iff {path : Path} : ¬ fs.Readable s path ↔ fs.read? s path = none := by
  rw [Readable, not_exists]
  exact Option.eq_none_iff_forall_ne_some.symm

end FileSystem

/-! ## Stores -/

namespace Store

variable {s : Store} {loc : Location} {n m : Node}

theorem node_put (s : Store) (loc other : Location) (n : Node) :
    (s.put loc n).node other = if other = loc then some n else s.node other := rfl

/-- Replacing a file by a file changes no directory, so names lead on as before. -/
theorem walk_put (hn : s.node loc = some n) (hd : n ≠ .directory) (hm : m ≠ .directory) (start : Location)
    (names : List Bytes) : (s.put loc m).walk start names = s.walk start names := by
  induction names generalizing start with
  | nil => rfl
  | cons name names ih =>
    have hdir : ((s.put loc m).node start != some .directory) = (s.node start != some .directory) := by
      rw [node_put]
      by_cases h : start = loc
      · subst h
        rw [if_pos rfl, hn, bne_iff_ne.mpr (by simpa using hm), bne_iff_ne.mpr (by simpa using hd)]
      · rw [if_neg h]
    simp only [walk, hdir, ih]

theorem resolve?_put (hn : s.node loc = some n) (hd : n ≠ .directory) (hm : m ≠ .directory) (path : Path) :
    (s.put loc m).resolve? path = s.resolve? path := by
  unfold resolve?
  split
  · rfl
  · exact walk_put hn hd hm _ _

/-- The text at a location. -/
def nodeText? : Option Node → Option Text
  | some (.text t) => some t
  | _ => none

theorem nodeText?_eq_some_iff {n : Option Node} {t : Text} : nodeText? n = some t ↔ n = some (.text t) := by
  rcases n with _ | _ | u | b <;> simp [nodeText?]

theorem readText?_eq (s : Store) (path : Path) :
    s.readText? path = (s.resolve? path).bind fun loc => nodeText? (s.node loc) := by
  unfold readText? lookup?
  cases s.resolve? path with
  | none => rfl
  | some loc =>
    show (match s.node loc with | some (.text t) => some t | _ => none) = nodeText? (s.node loc)
    rcases s.node loc with _ | _ | u | b <;> rfl

/-- What a write that worked has done. -/
theorem eq_put_of_writeText {s' : Store} {path : Path} {new : Text} (hl : s.resolve? path = some loc)
    (h : s.writeText path new = (true, s')) : s' = s.put loc (.text new) := by
  unfold writeText at h
  simp only [hl] at h
  split at h
  · exact (Prod.mk.inj h).2.symm
  · cases h

/-- Stores with their paths, which may lead to one location in many ways. -/
@[reducible] def fileSystem : FileSystem where
  State := Store
  File := Location
  Content := Option Node
  file? := resolve?
  content := node
  text? := nodeText?
  access := access
  run_readText s path := by
    rw [← readText?_eq]
    rfl
  run_writeText {s s' path loc old new} hl hold h := by
    have hn := nodeText?_eq_some_iff.mp hold
    obtain rfl := eq_put_of_writeText hl h
    refine ⟨fun p => resolve?_put hn (by simp) (by simp) p, ?_, fun g hg => ?_⟩
    · rw [node_put, if_pos rfl]
      rfl
    · rw [node_put, if_neg hg]

/-- A text in a location that is not locked can be replaced. -/
theorem writeText_of_not_isLocked {path : Path} {t : Text} (ht : fileSystem.read? s path = some t)
    (h : ∀ loc, s.resolve? path = some loc → s.isLocked loc = false) (new : Text) :
    (s.writeText path new).1 = true := by
  obtain ⟨loc, hl, hn⟩ := FileSystem.read?_eq_some_iff.mp ht
  have hn : s.node loc = some (.text t) := nodeText?_eq_some_iff.mp hn
  have hl : s.resolve? path = some loc := hl
  simp [writeText, hl, hn, Node.isFile, h loc hl]

/-- Writing locks nothing and unlocks nothing. -/
theorem isLocked_writeText (s : Store) (path : Path) (new : Text) : (s.writeText path new).2.isLocked = s.isLocked := by
  unfold writeText
  split
  · split <;> rfl
  · rfl

end Store

end Keyline
