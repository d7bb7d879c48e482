import Keyline.Document
import Keyline.Uri.Basic

/-!
# The documents of a workspace

A table of open documents, in which an address occurs once. Main statements: what is found after an insertion
(`get?_insert`) and after a removal (`get?_erase`).
-/

namespace Keyline

/-- The open documents, each under its address. -/
abbrev Documents := List (Uri × Document)

namespace Documents

/-- The document under an address. -/
def get? (ds : Documents) (uri : Uri) : Option Document := ds.lookup uri

/-- The table without the document under an address. -/
def erase (ds : Documents) (uri : Uri) : Documents := ds.filter (·.1 != uri)

/-- The table with a document under an address, in the place of an earlier one. -/
def insert (ds : Documents) (uri : Uri) (d : Document) : Documents := (uri, d) :: ds.erase uri

theorem get?_cons (uri other : Uri) (d : Document) (ds : Documents) :
    get? ((uri, d) :: ds) other = if other = uri then some d else ds.get? other := by
  by_cases h : other = uri
  · simp [get?, h]
  · have : (other == uri) = false := by simpa using h
    simp [get?, List.lookup_cons, h, this]

theorem get?_erase (ds : Documents) (uri other : Uri) :
    (ds.erase uri).get? other = if other = uri then none else ds.get? other := by
  induction ds with
  | nil => simp [erase, get?]
  | cons e ds ih =>
    obtain ⟨u, d⟩ := e
    by_cases hu : u = uri
    · have : erase ((u, d) :: ds) uri = erase ds uri := by simp [erase, hu]
      rw [this, ih, get?_cons, hu]
      split <;> rfl
    · have : erase ((u, d) :: ds) uri = (u, d) :: erase ds uri := by simp [erase, hu]
      rw [this, get?_cons, get?_cons, ih]
      by_cases ho : other = u
      · simp [ho, hu]
      · simp [ho]

theorem get?_insert (ds : Documents) (uri other : Uri) (d : Document) :
    (ds.insert uri d).get? other = if other = uri then some d else ds.get? other := by
  rw [insert, get?_cons, get?_erase]
  split <;> rfl

end Documents

end Keyline
