/-
This file feeds documents to a session one after the other, whether they fail or not.
-/

import HostTree.Proofs.Store.Growth
import HostTree.Proofs.Walk.Outcome

namespace HostTree

namespace Visit

/-- The result is the first failure, if there is one. -/
def verdict (visits : List Visit) : Except Failure Unit :=
  match visits.findSome? fun visit => visit.effect.failure with
  | some failure => .error failure
  | none => .ok ()

def warnings (visits : List Visit) : List Warning :=
  visits.flatMap fun visit => visit.effect.warnings

end Visit

namespace Session

variable (session : Session) (document : Value)

theorem feed_result : (session.feed document).1 = Visit.verdict (Visit.ofDocument document) := by
  rw [feed_eq_perform, perform_fst, List.findSome?_map]
  rfl

/-- A document adds what the visits that take place emit, and nothing after its failure. -/
theorem feed_store :
    (session.feed document).2.store =
      (Visit.emissions (Visit.performed (Visit.ofDocument document))).foldl Emission.addTo
        session.store := by
  rw [feed_eq_perform, perform_snd, store_foldl_take, upTo_map, List.filterMap_map]
  rfl

theorem feed_warnings :
    (session.feed document).2.warnings.toList = session.warnings.toList ++
      Visit.warnings (Visit.performed (Visit.ofDocument document)) := by
  rw [feed_eq_perform, perform_snd, warnings_foldl_take, upTo_map, List.flatMap_map]
  rfl

/-- A failure of one document does not keep the next ones away. -/
def feedAll (session : Session) (documents : List Value) : Session :=
  documents.foldl (fun session document => (session.feed document).2) session

/-- The store of a whole run takes the emissions of all documents in order. -/
theorem feedAll_store (session : Session) (documents : List Value) :
    (session.feedAll documents).store =
      (documents.flatMap fun document =>
        Visit.emissions (Visit.performed (Visit.ofDocument document))).foldl Emission.addTo
          session.store := by
  induction documents generalizing session with
  | nil => rfl
  | cons document rest ih =>
    rw [List.flatMap_cons, List.foldl_append, ← feed_store]
    exact ih (session.feed document).2

end Session

/-- Documents that are fed one after the other do not disturb each other. After any documents, also
failing ones, the result of the next one and its warnings are the same, and it adds the same
emissions to the store. So all blocks from before keep their places, names, kinds and lines, and new
ones only come behind them, also when the document fails midway. -/
theorem documents_stay_apart (documents : List Value) (document : Value) :
    let before := ({} : Session).feedAll documents
    let visits := Visit.performed (Visit.ofDocument document)
    let after := (before.feed document).2
    (before.feed document).1 = Visit.verdict (Visit.ofDocument document) ∧
    after.warnings.toList = before.warnings.toList ++ Visit.warnings visits ∧
    before.store = (documents.flatMap fun earlier =>
      Visit.emissions (Visit.performed (Visit.ofDocument earlier))).foldl Emission.addTo
        Store.empty ∧
    after.store = (Visit.emissions visits).foldl Emission.addTo before.store ∧
    before.store.GrowsTo after.store := by
  intro before visits after
  refine ⟨before.feed_result document, before.feed_warnings document,
    Session.feedAll_store {} documents, before.feed_store document, ?_⟩
  have added : after.store = (Visit.emissions visits).foldl Emission.addTo before.store :=
    before.feed_store document
  rw [added]
  exact Store.growsTo_foldl_addTo _ before.store

end HostTree
