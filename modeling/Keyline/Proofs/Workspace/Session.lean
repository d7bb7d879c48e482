import Keyline.Workspace

/-!
# Sessions

A session is what an editor and the workspace go through together: events one after the other, from an empty workspace
on. Its log has every event with what followed from it.

Whatever the event, one of three things happens at its address (`Transition`, `Settings.transition_handle`): a document
is stored and its diagnostics are published, the address is cleared and published without diagnostics, or nothing is
stored and nothing published. In all three cases the editor's view stays in step with the workspace
(`Transition.inStep`): the latest publication for an address is that of the stored document, or an empty one if none is
stored. So it is in step after every event of every session (`Settings.inStep_run`).
-/

namespace Keyline

/-- The open documents, and the events so far with what followed from each, the latest first. -/
structure Session where
  documents : Documents
  log : List (Event × Effect)

/-- The session in which nothing has happened. -/
def Session.start : Session := ⟨[], []⟩

/-- A session after one more event. -/
def Settings.next (s : Settings) (σ : Session) (e : Event) : Session :=
  let (documents, effect) := s.handle σ.documents e
  ⟨documents, (e, effect) :: σ.log⟩

/-- The session that a list of events makes up. -/
def Settings.run (s : Settings) (events : List Event) : Session := events.foldl s.next .start

/-- What holds at the start of a session and is kept by every event holds in every session. -/
theorem Settings.run_induction {s : Settings} {P : Session → Prop} (start : P .start)
    (next : ∀ σ e, P σ → P (s.next σ e)) (events : List Event) : P (s.run events) := by
  unfold Settings.run
  generalize Session.start = σ at start
  induction events generalizing σ with
  | nil => exact start
  | cons e events ih => exact ih (s.next σ e) (next σ e start)

/-! ## Publications -/

/-- What is published, if that is the effect. -/
def Effect.publication? : Effect → Option Publication
  | .published p => some p
  | _ => none

namespace Session

/-- What was published for an address, the latest first. -/
def publications (σ : Session) (uri : Uri) : List Publication :=
  (σ.log.filterMap fun entry => entry.2.publication?).filter (·.uri = uri)

/-- The latest publication for an address: what the editor shows for it. -/
def latest? (σ : Session) (uri : Uri) : Option Publication := (σ.publications uri).head?

variable {σ : Session} {uri : Uri}

/-- An effect that publishes nothing for an address leaves the editor's view of it. -/
theorem latest?_of_ne {effect : Effect} (h : ∀ p, effect.publication? = some p → p.uri ≠ uri) (ds : Documents)
    (e : Event) : latest? ⟨ds, (e, effect) :: σ.log⟩ uri = σ.latest? uri := by
  simp only [latest?, publications, List.filterMap_cons]
  cases hp : effect.publication? with
  | none => rfl
  | some p => rw [List.filter_cons_of_neg (by simpa using h p hp)]

/-- A publication replaces the view of its address. -/
theorem latest?_published (p : Publication) (ds : Documents) (e : Event) :
    latest? ⟨ds, (e, .published p) :: σ.log⟩ p.uri = some p := by
  simp only [latest?, publications, List.filterMap_cons, Effect.publication?]
  rw [List.filter_cons_of_pos (by simp)]
  rfl

end Session

/-! ## One event -/

/-- The address that an event is about. -/
def Event.uri : Event → Uri
  | .opened uri _ => uri
  | .changed uri _ _ => uri
  | .closed uri => uri
  | .fixesAsked uri _ => uri

/-- What can follow from an event about an address: the documents afterwards, and the effect. -/
inductive Transition (s : Settings) (ds : Documents) (uri : Uri) : Documents → Effect → Prop
  | store (d : Document) : Transition s ds uri (ds.insert uri d) (.published (s.publication uri d))
  | clear : Transition s ds uri (ds.erase uri) (.published ⟨uri, [], none⟩)
  | keep {effect : Effect} : effect.publication? = none → Transition s ds uri ds effect

theorem Settings.transition_store (s : Settings) (ds : Documents) (uri : Uri) (d : Document) :
    Transition s ds uri (s.store ds uri d).1 (s.store ds uri d).2 := by
  rw [Settings.store_eq]
  exact .store d

/-- Every event leads to a transition at its address. -/
theorem Settings.transition_handle (s : Settings) (ds : Documents) (e : Event) :
    Transition s ds e.uri (s.handle ds e).1 (s.handle ds e).2 := by
  cases e with
  | opened uri d => exact s.transition_store ds uri d
  | changed uri version contents =>
    -- A change without contents is no change.
    cases h : contents.getLast? with
    | none =>
      rw [Settings.handle, h]
      exact .keep rfl
    | some content =>
      rw [Settings.handle, h]
      exact s.transition_store ds uri _
  | closed uri => exact .clear
  | fixesAsked uri diagnostics => exact .keep rfl

section Transition

variable {s : Settings} {ds ds' : Documents} {uri : Uri} {effect : Effect}

/-- What is published is published for the address of the transition. -/
theorem Transition.uri_of_publication? (h : Transition s ds uri ds' effect) {p : Publication}
    (hp : effect.publication? = some p) : p.uri = uri := by
  cases h with
  | store d =>
    obtain rfl := Option.some.inj hp
    rfl
  | clear =>
    obtain rfl := Option.some.inj hp
    rfl
  | keep hnone => cases hnone.symm.trans hp

/-- A transition leaves the documents at other addresses alone. -/
theorem Transition.get?_of_ne (h : Transition s ds uri ds' effect) {other : Uri} (ho : other ≠ uri) :
    ds'.get? other = ds.get? other := by
  cases h with
  | store d => rw [Documents.get?_insert, if_neg ho]
  | clear => rw [Documents.get?_erase, if_neg ho]
  | keep => rfl

end Transition

/-! ## The view of the editor -/

/-- What an editor may show for an address: for a stored document its publication, and for no document nothing, or the
publication that there is nothing. -/
def Settings.Shows (s : Settings) (uri : Uri) : Option Document → Option Publication → Prop
  | some d, shown => shown = some (s.publication uri d)
  | none, shown => shown = none ∨ shown = some ⟨uri, [], none⟩

/-- The editor shows what the workspace holds, at every address. -/
def Session.InStep (s : Settings) (σ : Session) : Prop :=
  ∀ uri, s.Shows uri (σ.documents.get? uri) (σ.latest? uri)

/-- A transition keeps the editor in step. -/
theorem Transition.inStep {s : Settings} {σ : Session} {uri : Uri} {ds : Documents} {effect : Effect} {e : Event}
    (h : Transition s σ.documents uri ds effect) (hσ : σ.InStep s) : Session.InStep s ⟨ds, (e, effect) :: σ.log⟩ := by
  intro other
  show s.Shows other (ds.get? other) _
  by_cases ho : other = uri
  · subst ho
    cases h with
    | store d =>
      rw [Documents.get?_insert, if_pos rfl]
      exact Session.latest?_published (s.publication other d) _ e
    | clear =>
      rw [Documents.get?_erase, if_pos rfl]
      exact Or.inr (Session.latest?_published ⟨other, [], none⟩ _ e)
    | keep hnone =>
      rw [Session.latest?_of_ne fun p hp => by cases hnone.symm.trans hp]
      exact hσ other
  · -- Elsewhere neither the document nor the view changes.
    rw [h.get?_of_ne ho, Session.latest?_of_ne fun p hp => h.uri_of_publication? hp ▸ Ne.symm ho]
    exact hσ other

/-- The editor is in step after every session. -/
theorem Settings.inStep_run (s : Settings) (events : List Event) : (s.run events).InStep s := by
  refine Settings.run_induction ?_ ?_ events
  · intro uri
    exact Or.inl rfl
  · intro σ e hσ
    exact (s.transition_handle σ.documents e).inStep hσ

/-- What the editor shows for a stored document. -/
theorem Settings.latest?_of_get? {s : Settings} {events : List Event} {uri : Uri} {d : Document}
    (h : (s.run events).documents.get? uri = some d) :
    (s.run events).latest? uri = some (s.publication uri d) := by
  have hu := s.inStep_run events uri
  rw [h] at hu
  exact hu

/-- **The editor's view follows the workspace.** After any number of events, for every address: if a document is stored
there, its latest publication has the stored version and, one by one and in order, the diagnostics of the findings of
the stored text, or none if the document is not a records document; if none is stored there and something was published,
the latest publication has no diagnostics and no version. -/
theorem latest_publication_follows_documents (s : Settings) (events : List Event) (uri : Uri) :
    match (s.run events).documents.get? uri with
    | some d =>
      (s.run events).latest? uri =
        some ⟨uri, if s.acceptsDocument uri d then (validate d.content).map (d.diagnostic s.severity) else [],
          some d.version⟩
    | none => ∀ p, (s.run events).latest? uri = some p → p.diagnostics = [] ∧ p.version = none := by
  have hu := s.inStep_run events uri
  cases hd : (s.run events).documents.get? uri with
  | some d => exact Settings.latest?_of_get? hd
  | none =>
    rw [hd] at hu
    intro p hp
    rcases hu with hn | he
    · rw [hn] at hp
      cases hp
    · obtain rfl := Option.some.inj (he.symm.trans hp)
      exact ⟨rfl, rfl⟩

end Keyline
