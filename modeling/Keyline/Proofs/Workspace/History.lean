import Mathlib.Data.List.Induction
import Keyline.Proofs.Workspace.Session

/-!
# The history of one document

Events about one address neither see nor touch what is stored under another.

* In workspaces that agree on the address of an event, the event has the same effect (`Settings.handle_congr`) and
  leaves the same there (`Settings.get?_handle_uri`); it leaves all other addresses alone
  (`Transition.get?_of_ne`). So two sessions that agree on an address still do so when both take an event about it
  (`Session.Agrees.next`), or when only one of them takes an event about another address
  (`Session.Agrees.next_foreign`). Hence a session agrees with what is left of it when the events about other addresses
  are taken out (`Settings.agrees_run_filter`).
* What is stored can be read off the history, from its end backwards: the text and the version from the last event that
  decides on the document, and the language identifier from the last opening since the document was closed
  (`Settings.get?_run`). The workspace hands the identifier on from change to change, and
  `Settings.languageId_run` is the invariant that carries it.
-/

namespace Keyline

/-- What is answered, if that is the effect. -/
def Effect.answer? : Effect → Option (Option (List QuickFix))
  | .answered fixes => some fixes
  | _ => none

/-- What was answered to questions about an address, the latest first. -/
def Session.answers (σ : Session) (uri : Uri) : List (Option (List QuickFix)) :=
  (σ.log.filter (·.1.uri = uri)).filterMap fun entry => entry.2.answer?

/-! ## Events and other addresses -/

section Handle

variable {s : Settings} {ds ds' : Documents} {e : Event} {uri : Uri}

/-- What an event about an address makes of the document there. -/
def Event.update (e : Event) (old : Option Document) : Option Document :=
  match e with
  | .opened _ d => some d
  | .changed _ version contents =>
    match contents.getLast? with
    | none => old
    | some content => some ⟨content, (old.map Document.languageId).getD "", version⟩
  | .closed _ => none
  | .fixesAsked _ _ => old

theorem Settings.get?_handle_uri (s : Settings) (ds : Documents) (e : Event) :
    (s.handle ds e).1.get? e.uri = e.update (ds.get? e.uri) := by
  cases e with
  | opened u d =>
    show (ds.insert u d).get? u = some d
    rw [Documents.get?_insert, if_pos rfl]
  | changed u version contents =>
    cases h : contents.getLast? with
    | none => simp only [Settings.handle, Event.update, h]
    | some content =>
      simp only [Settings.handle, Event.update, h, Settings.store_eq, Event.uri]
      rw [Documents.get?_insert, if_pos rfl]
  | closed u =>
    show (ds.erase u).get? u = none
    rw [Documents.get?_erase, if_pos rfl]
  | fixesAsked u diagnostics => rfl

/-- Where two workspaces agree, an event about that place has the same effect. -/
theorem Settings.handle_congr (h : ds.get? e.uri = ds'.get? e.uri) : (s.handle ds e).2 = (s.handle ds' e).2 := by
  cases e with
  | opened u d => simp only [Settings.handle, Settings.store_eq]
  | changed u version contents =>
    -- The new document takes over the identifier of the old one, which is the same in both.
    have hu : ds.get? u = ds'.get? u := h
    cases hlast : contents.getLast? with
    | none => simp only [Settings.handle, hlast]
    | some content => simp only [Settings.handle, hlast, hu, Settings.store_eq]
  | closed u => rfl
  | fixesAsked u diagnostics =>
    have hu : ds.get? u = ds'.get? u := h
    simp only [Settings.handle, Settings.quickFixes?, hu]

end Handle

/-! ## Sessions that agree on an address -/

/-- Two sessions look the same from one address. -/
structure Session.Agrees (uri : Uri) (σ σ' : Session) : Prop where
  document : σ.documents.get? uri = σ'.documents.get? uri
  publications : σ.publications uri = σ'.publications uri
  answers : σ.answers uri = σ'.answers uri

section Agrees

variable {s : Settings} {σ σ' : Session} {e : Event} {uri : Uri}

theorem Settings.documents_next (s : Settings) (σ : Session) (e : Event) :
    (s.next σ e).documents = (s.handle σ.documents e).1 := rfl

theorem Settings.publications_next (s : Settings) (σ : Session) (e : Event) (uri : Uri) :
    (s.next σ e).publications uri =
      (s.handle σ.documents e).2.publication?.toList.filter (·.uri = uri) ++ σ.publications uri := by
  simp only [Settings.next, Session.publications, List.filterMap_cons]
  cases (s.handle σ.documents e).2.publication? with
  | none => rfl
  | some p => rw [Option.toList_some, ← List.filter_append]; rfl

theorem Settings.answers_next (s : Settings) (σ : Session) (e : Event) (uri : Uri) :
    (s.next σ e).answers uri =
      (if e.uri = uri then (s.handle σ.documents e).2.answer?.toList else []) ++ σ.answers uri := by
  simp only [Settings.next, Session.answers, List.filter_cons]
  by_cases h : e.uri = uri
  · simp only [h, decide_true, if_true, List.filterMap_cons]
    cases (s.handle σ.documents e).2.answer? <;> rfl
  · simp [h]

/-- Both sessions take an event about the address. -/
theorem Session.Agrees.next (h : σ.Agrees uri σ') (he : e.uri = uri) : (s.next σ e).Agrees uri (s.next σ' e) := by
  subst he
  have heffect : (s.handle σ.documents e).2 = (s.handle σ'.documents e).2 := Settings.handle_congr h.document
  refine ⟨?_, ?_, ?_⟩
  · rw [Settings.documents_next, Settings.documents_next, Settings.get?_handle_uri, Settings.get?_handle_uri,
      h.document]
  · rw [Settings.publications_next, Settings.publications_next, heffect, h.publications]
  · rw [Settings.answers_next, Settings.answers_next, heffect, h.answers]

/-- One of the sessions takes an event about another address. -/
theorem Session.Agrees.next_foreign (h : σ.Agrees uri σ') (he : e.uri ≠ uri) : (s.next σ e).Agrees uri σ' := by
  refine ⟨?_, ?_, ?_⟩
  · rw [Settings.documents_next, (s.transition_handle _ e).get?_of_ne (Ne.symm he), h.document]
  · rw [Settings.publications_next, h.publications]
    cases hp : (s.handle σ.documents e).2.publication? with
    | none => rfl
    | some p =>
      have hu : p.uri ≠ uri := ((s.transition_handle _ e).uri_of_publication? hp).symm ▸ he
      simp [hu]
  · rw [Settings.answers_next, if_neg he, h.answers]
    rfl

/-- Sessions that agree on an address still do after a list of events, of which one session takes only those about the
address. -/
theorem Session.Agrees.foldl_filter (h : σ.Agrees uri σ') (events : List Event) :
    (events.foldl s.next σ).Agrees uri ((events.filter (·.uri = uri)).foldl s.next σ') := by
  induction events generalizing σ σ' with
  | nil => exact h
  | cons e events ih =>
    by_cases he : e.uri = uri
    · rw [List.filter_cons_of_pos (by simpa using he)]
      exact ih (h.next he)
    · rw [List.filter_cons_of_neg (by simpa using he)]
      exact ih (h.next_foreign he)

/-- A session looks from an address as if nothing else had happened. -/
theorem Settings.agrees_run_filter (s : Settings) (events : List Event) (uri : Uri) :
    (s.run events).Agrees uri (s.run (events.filter (·.uri = uri))) :=
  Session.Agrees.foldl_filter ⟨rfl, rfl, rfl⟩ events

end Agrees

/-! ## What a history leaves -/

namespace Event

/-- Whether an event decides on the document of an address: an opening, a closing or a change with contents. -/
def decides (uri : Uri) : Event → Bool
  | .opened u _ => u = uri
  | .changed u _ contents => u = uri && !contents.isEmpty
  | .closed u => u = uri
  | .fixesAsked _ _ => false

/-- The text and the version that an event brings. -/
def content? : Event → Option (Text × Int)
  | .opened _ d => some (d.content, d.version)
  | .changed _ version contents => contents.getLast?.map (·, version)
  | .closed _ => none
  | .fixesAsked _ _ => none

/-- Whether an event closes the document of an address. -/
def closes (uri : Uri) : Event → Bool
  | .closed u => u = uri
  | _ => false

/-- The language identifier with which an event opens the document of an address. -/
def language? (uri : Uri) : Event → Option String
  | .opened u d => if u = uri then some d.languageId else none
  | _ => none

end Event

/-- The language identifier of the last opening of an address since it was closed; empty if there is none. -/
def languageOf (events : List Event) (uri : Uri) : String :=
  ((events.reverse.takeWhile (!·.closes uri)).findSome? (·.language? uri)).getD ""

/-- The document that a history of events leaves under an address. -/
def documentOf? (events : List Event) (uri : Uri) : Option Document :=
  (events.reverse.find? (·.decides uri)).bind fun e =>
    e.content?.map fun (content, version) => ⟨content, languageOf events uri, version⟩

section History

variable {s : Settings} {events : List Event} {e : Event} {uri : Uri}

theorem Settings.run_concat (s : Settings) (events : List Event) (e : Event) :
    s.run (events ++ [e]) = s.next (s.run events) e := by
  rw [Settings.run, List.foldl_append]
  rfl

theorem languageOf_concat (events : List Event) (e : Event) (uri : Uri) :
    languageOf (events ++ [e]) uri =
      if e.closes uri then "" else (e.language? uri).getD (languageOf events uri) := by
  rw [languageOf, List.reverse_append, List.reverse_singleton, List.singleton_append, List.takeWhile_cons]
  cases e.closes uri with
  | true => rfl
  | false =>
    simp only [Bool.not_false, if_true, List.findSome?_cons]
    cases e.language? uri with
    | none => rfl
    | some language => rfl

theorem Event.uri_of_decides (h : e.decides uri = true) : e.uri = uri := by
  cases e with
  | opened u d => exact of_decide_eq_true h
  | changed u version contents => exact of_decide_eq_true (Bool.and_eq_true_iff.mp h).1
  | closed u => exact of_decide_eq_true h
  | fixesAsked u diagnostics => cases h

/-- A change that decides has a last content. -/
theorem Event.exists_getLast?_of_decides {u : Uri} {version : Int} {contents : List Text}
    (h : (Event.changed u version contents).decides uri = true) : ∃ content, contents.getLast? = some content := by
  have hne : contents ≠ [] := by
    rintro rfl
    simp [Event.decides] at h
  exact ⟨_, List.getLast?_eq_some_getLast hne⟩

/-- An event that does not decide on a document neither closes nor opens it. -/
theorem Event.silent (h : e.decides uri = false) : e.closes uri = false ∧ e.language? uri = none := by
  cases e with
  | opened u d =>
    have hu : u ≠ uri := by simpa [Event.decides] using h
    exact ⟨rfl, by simp [Event.language?, hu]⟩
  | changed u version contents => exact ⟨rfl, rfl⟩
  | closed u => exact ⟨h, rfl⟩
  | fixesAsked u diagnostics => exact ⟨rfl, rfl⟩

/-- An event that does not decide on a document leaves it as it is. -/
theorem Settings.get?_run_concat_silent (s : Settings) (h : e.decides uri = false) :
    (s.run (events ++ [e])).documents.get? uri = (s.run events).documents.get? uri := by
  rw [Settings.run_concat, Settings.documents_next]
  by_cases hu : e.uri = uri
  · rw [← hu, Settings.get?_handle_uri]
    cases e with
    | opened u d => simp [Event.decides, show u = uri from hu] at h
    | changed u version contents =>
      obtain rfl : contents = [] := by simpa [Event.decides, show u = uri from hu] using h
      rfl
    | closed u => simp [Event.decides, show u = uri from hu] at h
    | fixesAsked u diagnostics => rfl
  · rw [(s.transition_handle _ e).get?_of_ne (Ne.symm hu)]

theorem Settings.get?_run_concat_decides (s : Settings) (h : e.decides uri = true) :
    (s.run (events ++ [e])).documents.get? uri = e.update ((s.run events).documents.get? uri) := by
  obtain rfl := Event.uri_of_decides h
  rw [Settings.run_concat, Settings.documents_next, Settings.get?_handle_uri]

theorem languageOf_concat_silent (h : e.decides uri = false) :
    languageOf (events ++ [e]) uri = languageOf events uri := by
  obtain ⟨hc, hl⟩ := Event.silent h
  rw [languageOf_concat, hc, hl]
  rfl

theorem documentOf?_concat_silent (h : e.decides uri = false) :
    documentOf? (events ++ [e]) uri = documentOf? events uri := by
  rw [documentOf?, languageOf_concat_silent h, List.reverse_append, List.reverse_singleton, List.singleton_append,
    List.find?_cons, h]
  rfl

theorem documentOf?_concat_decides (h : e.decides uri = true) :
    documentOf? (events ++ [e]) uri =
      e.content?.map fun (content, version) => ⟨content, languageOf (events ++ [e]) uri, version⟩ := by
  rw [documentOf?, List.reverse_append, List.reverse_singleton, List.singleton_append, List.find?_cons, h]
  rfl

/-- The workspace hands the language identifier on: from the opening to all later versions, up to the closing. -/
theorem Settings.languageId_run (s : Settings) (events : List Event) (uri : Uri) :
    (((s.run events).documents.get? uri).map Document.languageId).getD "" = languageOf events uri := by
  induction events using List.reverseRecOn with
  | nil => rfl
  | append_singleton events e ih =>
    cases hd : e.decides uri with
    | false => rw [s.get?_run_concat_silent hd, languageOf_concat_silent hd, ih]
    | true =>
      rw [s.get?_run_concat_decides hd, languageOf_concat]
      obtain rfl := Event.uri_of_decides hd
      cases e with
      | opened u d => simp [Event.update, Event.closes, Event.language?, Event.uri]
      | changed u version contents =>
        rw [← ih]
        simp only [Event.update, Event.closes, Event.language?]
        cases contents.getLast? <;> rfl
      | closed u => simp [Event.update, Event.closes, Event.uri]
      | fixesAsked u diagnostics => exact ih

/-- What is stored under an address is what its history leaves. -/
theorem Settings.get?_run (s : Settings) (events : List Event) (uri : Uri) :
    (s.run events).documents.get? uri = documentOf? events uri := by
  induction events using List.reverseRecOn with
  | nil => rfl
  | append_singleton events e ih =>
    cases hd : e.decides uri with
    | false => rw [s.get?_run_concat_silent hd, documentOf?_concat_silent hd, ih]
    | true =>
      rw [s.get?_run_concat_decides hd, documentOf?_concat_decides hd, languageOf_concat, ← s.languageId_run events]
      obtain rfl := Event.uri_of_decides hd
      cases e with
      | opened u d => simp [Event.update, Event.closes, Event.language?, Event.content?, Event.uri]
      | changed u version contents =>
        obtain ⟨content, hlast⟩ := Event.exists_getLast?_of_decides hd
        simp only [Event.update, Event.closes, Event.language?, Event.content?, hlast]
        rfl
      | closed u => rfl
      | fixesAsked u diagnostics => cases hd

end History

/-- **Documents do not interfere.** After any number of events, what is stored under an address, what was published for
it and what was answered to questions about it are the same as if there had been no events about other addresses. What
is stored has the text and the version of the last event that decided on the document: nothing, if that was a closing
or if there is none. Its language identifier is that of the last opening since the document was closed, and empty
without one. -/
theorem document_follows_its_own_history (s : Settings) (events : List Event) (uri : Uri) :
    ((s.run events).documents.get? uri = (s.run (events.filter (·.uri = uri))).documents.get? uri ∧
        (s.run events).publications uri = (s.run (events.filter (·.uri = uri))).publications uri ∧
        (s.run events).answers uri = (s.run (events.filter (·.uri = uri))).answers uri) ∧
      match events.reverse.find? (·.decides uri) with
      | none => (s.run events).documents.get? uri = none
      | some (.closed _) => (s.run events).documents.get? uri = none
      | some e => ∃ content version, e.content? = some (content, version) ∧
          (s.run events).documents.get? uri = some ⟨content, languageOf events uri, version⟩ := by
  have h := s.agrees_run_filter events uri
  refine ⟨⟨h.document, h.publications, h.answers⟩, ?_⟩
  rw [s.get?_run, documentOf?]
  cases hlast : events.reverse.find? (·.decides uri) with
  | none => rfl
  | some e =>
    have hd : e.decides uri = true := by simpa using List.find?_some hlast
    cases e with
    | opened u d => exact ⟨_, _, rfl, rfl⟩
    | changed u version contents =>
      obtain ⟨content, hcontent⟩ := Event.exists_getLast?_of_decides hd
      exact ⟨content, version, by simp [Event.content?, hcontent], by simp [Event.content?, hcontent]⟩
    | closed u => rfl
    | fixesAsked u diagnostics => cases hd

end Keyline
