import SelectTree.Proofs.Names
import SelectTree.Proofs.Runs

namespace SelectTree.Edit

/-! Failed requests. A session goes on as if they had not been made, and remembers of them only
the last text that it rejected. -/

/-- What is asked of a session: a gesture, or the filter of a column. -/
inductive Request
  | gesture (g : Gesture)
  | filterFor (column : String)
  deriving DecidableEq, Repr

/-- Loading and clearing settle whether there is a rejected text. -/
def Request.settles : Request → Bool
  | .gesture (.load _) => true
  | .gesture .clear => true
  | _ => false

inductive Answer
  | done
  | failed (e : Error)
  | filter (found : Option Filter)
  deriving DecidableEq, Repr

def Answer.isFailure : Answer → Bool
  | .failed _ => true
  | _ => false

/-- What is seen of a request: its answer, and what the session shows after it. -/
structure View where
  answer : Answer
  sql : String
  columns : List String
  tables : List String
  deriving DecidableEq, Repr

namespace Session

variable {s t : Session} {r : Request} {requests : List Request} {text : String} {e : Error}

def answer (s : Session) : Request → Answer
  | .gesture g =>
      match s.errorOf g with
      | none => .done
      | some e => .failed e
  | .filterFor column => .filter (s.filterFor column)

/-- The session after a request. -/
def handle (s : Session) : Request → Session
  | .gesture g => s.perform g
  | .filterFor _ => s

/-- The session after some requests. -/
def serve (s : Session) (requests : List Request) : Session :=
  requests.foldl handle s

@[simp] theorem serve_nil : s.serve [] = s := rfl

@[simp] theorem serve_cons : s.serve (r :: requests) = (s.handle r).serve requests := rfl

theorem serve_concat (s : Session) (requests : List Request) (r : Request) :
    s.serve (requests ++ [r]) = (s.serve requests).handle r := by
  simp [serve]

def view (s : Session) (r : Request) : View :=
  ⟨s.answer r, (s.handle r).sql, (s.handle r).columns, (s.handle r).tables⟩

/-- What is seen of each of the requests. -/
def views : Session → List Request → List View
  | _, [] => []
  | s, r :: rest => s.view r :: (s.handle r).views rest

/-- Those of the requests that do not fail when all of them are made. -/
def granted : Session → List Request → List Request
  | _, [] => []
  | s, r :: rest =>
      if (s.answer r).isFailure then (s.handle r).granted rest
      else r :: (s.handle r).granted rest

/-! Sessions that show the same -/

/-- The sessions differ in the rejected text at most. -/
structure Alike (s t : Session) : Prop where
  schema : s.schema = t.schema
  options : s.options = t.options
  query : s.query = t.query

namespace Alike

theorem refl (s : Session) : Alike s s := ⟨rfl, rfl, rfl⟩

theorem trans {u : Session} (h : Alike s t) (hnext : Alike t u) : Alike s u :=
  ⟨h.schema.trans hnext.schema, h.options.trans hnext.options, h.query.trans hnext.query⟩

theorem edited_eq (h : Alike s t) (g : Gesture) : s.edited g = t.edited g := by
  obtain ⟨schema, options, query, _⟩ := s
  obtain ⟨_, _, _, _⟩ := t
  obtain ⟨rfl, rfl, rfl⟩ := h
  cases g <;> rfl

theorem filterFor_eq (h : Alike s t) (column : String) :
    s.filterFor column = t.filterFor column := by
  rw [filterFor, filterFor, h.query]

theorem answer_eq (h : Alike s t) (r : Request) : s.answer r = t.answer r := by
  cases r with
  | gesture g => simp only [answer, errorOf, h.edited_eq g]
  | filterFor column => simp only [answer, h.filterFor_eq column]

theorem handle (h : Alike s t) (r : Request) : Alike (s.handle r) (t.handle r) := by
  cases r with
  | gesture g =>
      refine ⟨h.schema, h.options, ?_⟩
      simp only [Session.handle, perform, queryAfter, h.edited_eq g, h.query]
  | filterFor column => exact h

theorem view_eq (h : Alike s t) (r : Request) : s.view r = t.view r := by
  have hafter := h.handle r
  simp only [view, h.answer_eq r, sql, columns, tables, hafter.query, hafter.schema]

end Alike

theorem isFailure_answer_gesture {g : Gesture} (h : (s.answer (.gesture g)).isFailure = true) :
    ∃ e, s.edited g = .error e := by
  simp only [answer, errorOf] at h
  cases hedited : s.edited g with
  | ok query =>
      rw [hedited] at h
      cases h
  | error e => exact ⟨e, rfl⟩

/-- A request that fails leaves everything but the rejected text. -/
theorem alike_handle_of_isFailure (h : (s.answer r).isFailure = true) : Alike (s.handle r) s := by
  cases r with
  | gesture g =>
      obtain ⟨e, hedited⟩ := isFailure_answer_gesture h
      exact ⟨rfl, rfl, query_perform_of_error hedited⟩
  | filterFor column => cases h

/-! Requests that fail are left out -/

theorem alike_serve_granted (h : Alike s t) (requests : List Request) :
    Alike (s.serve requests) (t.serve (s.granted requests)) := by
  induction requests generalizing s t with
  | nil => exact h
  | cons r rest ih =>
      rw [granted]
      split
      · rename_i hfails
        exact ih ((alike_handle_of_isFailure hfails).trans h)
      · exact ih (h.handle r)

theorem views_granted (h : Alike s t) (requests : List Request) :
    t.views (s.granted requests) = (s.views requests).filter (!·.answer.isFailure) := by
  induction requests generalizing s t with
  | nil => rfl
  | cons r rest ih =>
      rw [granted, views]
      split
      · rename_i hfails
        rw [List.filter_cons_of_neg (by simpa [view] using hfails)]
        exact ih ((alike_handle_of_isFailure hfails).trans h)
      · rename_i hgranted
        rw [List.filter_cons_of_pos (by simpa [view] using hgranted), views, ← h.view_eq r,
          ih (h.handle r)]

/-! The rejected text -/

/-- The text was loaded last, failed with the error, and nothing was cleared since. -/
def RejectedLast (s : Session) (requests : List Request) (text : String) (e : Error) : Prop :=
  ∃ earlier later, requests = earlier ++ .gesture (.load text) :: later ∧
    (∀ r ∈ later, r.settles = false) ∧
    (s.serve earlier).answer (.gesture (.load text)) = .failed e

theorem not_rejectedLast_nil : ¬ s.RejectedLast [] text e := by
  rintro ⟨earlier, later, heq, -⟩
  simp at heq

theorem rejectedLast_concat_iff :
    s.RejectedLast (requests ++ [r]) text e ↔
      r = .gesture (.load text) ∧ (s.serve requests).answer r = .failed e ∨
        r.settles = false ∧ s.RejectedLast requests text e := by
  constructor
  · rintro ⟨earlier, later, heq, hlater, hanswer⟩
    -- The last request is the loading itself, or the last one after it.
    rcases List.eq_nil_or_concat later with rfl | ⟨front, last, rfl⟩
    · obtain ⟨rfl, hlast⟩ := List.append_inj' heq rfl
      obtain rfl := List.singleton_inj.mp hlast
      exact .inl ⟨rfl, hanswer⟩
    · rw [List.concat_eq_append] at heq hlater
      rw [← List.cons_append, ← List.append_assoc] at heq
      obtain ⟨rfl, hlast⟩ := List.append_inj' heq rfl
      obtain rfl := List.singleton_inj.mp hlast
      exact .inr ⟨hlater _ (by simp), earlier, front, rfl,
        fun r hr => hlater r (List.mem_append_left _ hr), hanswer⟩
  · rintro (⟨rfl, hanswer⟩ | ⟨hsettles, earlier, later, rfl, hlater, hanswer⟩)
    · exact ⟨requests, [], rfl, nofun, hanswer⟩
    · refine ⟨earlier, later ++ [r], by simp, ?_, hanswer⟩
      intro other hother
      rcases List.mem_append.mp hother with hmem | hmem
      · exact hlater other hmem
      · exact List.mem_singleton.mp hmem ▸ hsettles

theorem rejection_handle_of_not_settles (h : r.settles = false) :
    (s.handle r).rejection = s.rejection := by
  cases r with
  | filterFor column => rfl
  | gesture g =>
      cases g with
      | load text => cases h
      | clear => cases h
      | _ => rfl

theorem rejection_handle_load {rejection : Rejection} :
    (s.handle (.gesture (.load text))).rejection = some rejection ↔
      ∃ e, s.answer (.gesture (.load text)) = .failed e ∧ rejection = .ofError text e := by
  simp only [handle, perform, rejectionAfter, answer, errorOf, edited]
  cases s.options.dialect.parse text with
  | ok query => simp
  | error e => simp [eq_comm]

/-- What a session remembers is the text that it was given last, if that was rejected and nothing
was cleared since. -/
theorem rejection_serve_iff (hstart : s.rejection = none) {rejection : Rejection} :
    (s.serve requests).rejection = some rejection ↔
      ∃ text e, s.RejectedLast requests text e ∧ rejection = .ofError text e := by
  induction requests using List.reverseRecOn with
  | nil => simp [hstart, not_rejectedLast_nil]
  | append_singleton requests r ih =>
      rw [serve_concat]
      simp only [rejectedLast_concat_iff]
      cases hsettles : r.settles with
      | false =>
          have hload : ∀ text, r ≠ .gesture (.load text) := by
            rintro text rfl
            cases hsettles
          rw [rejection_handle_of_not_settles hsettles, ih]
          simp [hload]
      | true =>
          cases r with
          | filterFor column => cases hsettles
          | gesture g =>
              cases g with
              | load loaded =>
                  rw [rejection_handle_load]
                  simp
              | clear => simp [handle, perform, rejectionAfter]
              | _ => cases hsettles

theorem isSome_offset_ofError_iff :
    (Rejection.ofError text e).offset.isSome = true ↔ ∃ cause, e = .invalidQuery cause := by
  cases e <;> simp [Rejection.ofError]

theorem message_ofError : (Rejection.ofError text e).message = e.message := by
  cases e <;> rfl

/-- Requests that fail may as well not be made: the query at the end is the same, and so is what
is seen of the other requests. There is a rejected text exactly if the last text that was loaded
since the last clearing failed; its message is kept, and a place if it is no SQL. -/
theorem granted_suffice (schema : Schema) (options : Options) (requests : List Request) :
    ((start schema options).serve ((start schema options).granted requests)).query =
        ((start schema options).serve requests).query ∧
      (start schema options).views ((start schema options).granted requests) =
        ((start schema options).views requests).filter (!·.answer.isFailure) ∧
      (((start schema options).serve requests).rejection.isSome = true ↔
        ∃ text e, (start schema options).RejectedLast requests text e) ∧
      ∀ text e, (start schema options).RejectedLast requests text e →
        ∃ rejection, ((start schema options).serve requests).rejection = some rejection ∧
          rejection.message = e.message ∧
          (rejection.offset.isSome = true ↔ ∃ cause, e = .invalidQuery cause) := by
  have hrejected : ∀ text e, (start schema options).RejectedLast requests text e →
      ((start schema options).serve requests).rejection = some (.ofError text e) :=
    fun text e h => (rejection_serve_iff rfl).mpr ⟨text, e, h, rfl⟩
  refine ⟨(alike_serve_granted (.refl _) requests).query.symm, views_granted (.refl _) requests,
    ?_, ?_⟩
  · rw [Option.isSome_iff_exists]
    constructor
    · rintro ⟨rejection, h⟩
      obtain ⟨text, e, hlast, -⟩ := (rejection_serve_iff rfl).mp h
      exact ⟨text, e, hlast⟩
    · rintro ⟨text, e, hlast⟩
      exact ⟨_, hrejected text e hlast⟩
  · intro text e hlast
    exact ⟨_, hrejected text e hlast, message_ofError, isSome_offset_ofError_iff⟩

/-- A text that breaks off and a column that no table has are asked for in vain. -/
def triedRequests : List Request :=
  [.gesture (.addColumn "flights.id"), .gesture (.load "SELECT id FROM flights WHERE"),
    .gesture (.addColumn "flights.wings"), .filterFor "id"]

theorem granted_suffice_tried :
    (start .flights .default).granted triedRequests =
        [.gesture (.addColumn "flights.id"), .filterFor "id"] ∧
      (start .flights .default).views [.gesture (.addColumn "flights.id"), .filterFor "id"] =
        ((start .flights .default).views triedRequests).filter (!·.answer.isFailure) ∧
      (start .flights .default).RejectedLast triedRequests "SELECT id FROM flights WHERE"
        (.invalidQuery (.grammatical (.expected .expression) none none)) ∧
      ∃ rejection, ((start .flights .default).serve triedRequests).rejection = some rejection ∧
        rejection.message = "Invalid query: sql parser error: Expected: an expression, found: EOF" ∧
        rejection.offset.isSome = true := by
  have hgranted : (start .flights .default).granted triedRequests =
      [.gesture (.addColumn "flights.id"), .filterFor "id"] := by decide +kernel
  have hlast : (start .flights .default).RejectedLast triedRequests "SELECT id FROM flights WHERE"
      (.invalidQuery (.grammatical (.expected .expression) none none)) :=
    ⟨[.gesture (.addColumn "flights.id")], [.gesture (.addColumn "flights.wings"), .filterFor "id"],
      rfl, by decide, by decide +kernel⟩
  obtain ⟨-, hviews, -, hrejection⟩ := granted_suffice .flights .default triedRequests
  obtain ⟨rejection, hrejection, hmessage, hoffset⟩ := hrejection _ _ hlast
  exact ⟨hgranted, hgranted ▸ hviews, hlast, rejection, hrejection,
    hmessage.trans (by decide +kernel), hoffset.mpr ⟨_, rfl⟩⟩

end Session

end SelectTree.Edit
