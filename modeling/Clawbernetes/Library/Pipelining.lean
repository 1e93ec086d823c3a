import Clawbernetes.Library.Traces
import Mathlib.Data.List.Enum
import Mathlib.Data.List.TakeDrop

/-!
# Answers without numbers

A client and a server with a channel in each direction that keeps the order. The client sends one
request at a time and then waits for a frame. The server takes the requests in order and gives one
frame to each, but may send others on its own. Nothing in a frame says which request it is about,
and the client may stop waiting without having read one.

In a run of any such steps, a frame that answers a request is read by the client for the request
that comes as many places later as there were requests before for which no answer was read
(`answer_number`). So the client reads the answer to a request itself exactly as long as it has read
an answer for every request before it (`own_answer_iff`).
-/

set_option autoImplicit false
set_option relaxedAutoImplicit false

namespace Library.Pipelining

open Library.Runs

/-- What the client has in the end for a request. A frame that is an answer has the number of the
request that the server gave it for. -/
inductive Reading (Frame Miss : Type) where
  | read (answers : Option ℕ) (frame : Frame)
  | missed (miss : Miss)
  deriving DecidableEq

variable {Server Request Frame Miss : Type}

/-- A frame that is an answer, with its number. -/
def numbered (frame : Option ℕ × Frame) : Option (Frame × ℕ) :=
  frame.1.map fun number ↦ (frame.2, number)

/-- The answer that was read, with its number. -/
def Reading.answer : Reading Frame Miss → Option (Frame × ℕ)
  | .read answers frame => numbered (answers, frame)
  | .missed _ => none

/-- The client and the server: the requests in the order of their sending, how many of them the
server has taken, the frames on their way to the client, and what the client has read. -/
structure Pipe (Server Request Frame Miss : Type) where
  server : Server
  sent : List Request
  served : ℕ
  underway : List (Option ℕ × Frame)
  readings : List (Reading Frame Miss)

/-- A step of the client or the server. -/
inductive PipeMove (Request Frame Miss : Type) where
  | send (request : Request)
  | serve
  | push (frame : Frame)
  | receive
  | miss (miss : Miss)

namespace Pipe

/-- Nothing has happened yet. -/
def initial (server : Server) : Pipe Server Request Frame Miss := ⟨server, [], 0, [], []⟩

/-- The client does not wait. -/
def Idle (pipe : Pipe Server Request Frame Miss) : Prop := pipe.readings.length = pipe.sent.length

instance (pipe : Pipe Server Request Frame Miss) : Decidable pipe.Idle :=
  inferInstanceAs (Decidable (_ = _))

/-- A step, which changes nothing where it cannot be taken. -/
def step (serve : Server → Request → Server × Frame) (pipe : Pipe Server Request Frame Miss) :
    PipeMove Request Frame Miss → Pipe Server Request Frame Miss
  | .send request =>
    if pipe.Idle then { pipe with sent := pipe.sent ++ [request] } else pipe
  | .serve =>
    match pipe.sent[pipe.served]? with
    | none => pipe
    | some request => { pipe with
        server := (serve pipe.server request).1
        served := pipe.served + 1
        underway := pipe.underway ++ [(some pipe.served, (serve pipe.server request).2)] }
  | .push frame => { pipe with underway := pipe.underway ++ [(none, frame)] }
  | .receive =>
    if pipe.Idle then pipe
    else match pipe.underway with
    | [] => pipe
    | (answers, frame) :: rest =>
      { pipe with underway := rest, readings := pipe.readings ++ [.read answers frame] }
  | .miss miss =>
    if pipe.Idle then pipe else { pipe with readings := pipe.readings ++ [.missed miss] }

/-- The server after some requests. -/
def serverAfter (serve : Server → Request → Server × Frame) (server : Server)
    (requests : List Request) : Server :=
  requests.foldl (fun server request ↦ (serve server request).1) server

/-- The answers that the server gives to some requests, in order. -/
def answers (serve : Server → Request → Server × Frame) (server : Server)
    (requests : List Request) : List Frame :=
  outputs (fun server request ↦ (serve server request).1)
    (fun server request ↦ [(serve server request).2]) server requests

variable {serve : Server → Request → Server × Frame} {server : Server}

/-- There is one answer for each request. -/
theorem length_answers (requests : List Request) :
    (answers serve server requests).length = requests.length := by
  induction requests generalizing server with
  | nil => rfl
  | cons request rest ih =>
    have hrest : (answers serve (serve server request).1 rest).length = rest.length := ih
    rw [answers] at hrest
    simp only [answers, outputs, List.singleton_append, List.length_cons, hrest]

/-- One more request gets one more answer. -/
theorem answers_concat (requests : List Request) (last : Request) :
    answers serve server (requests ++ [last]) =
      answers serve server requests ++ [(serve (serverAfter serve server requests) last).2] :=
  outputs_concat _ last requests server

/-- The answers to the first requests are the first answers. -/
theorem answers_take (requests : List Request) (count : ℕ) :
    answers serve server (requests.take count) <+: answers serve server requests := by
  induction requests using List.reverseRecOn with
  | nil => simp
  | append_singleton front last ih =>
    rw [List.take_append, answers_concat]
    rcases Nat.lt_or_ge front.length count with hlt | hle
    · obtain ⟨extra, rfl⟩ := Nat.exists_eq_add_of_lt hlt
      have hall : (front.take (front.length + extra + 1)) = front :=
        List.take_of_length_le (by omega)
      have hlast : [last].take (front.length + extra + 1 - front.length) = [last] :=
        List.take_of_length_le (by simp only [List.length_singleton]; omega)
      rw [hall, hlast, answers_concat]
    · rw [Nat.sub_eq_zero_of_le hle, List.take_zero, List.append_nil]
      exact ih.trans (List.prefix_append _ _)

/-- What every step keeps: the client waits for at most one frame, the server has taken the first of
the requests, and the answers that were read and those that are on their way are the answers to
these in order, each with its number. -/
structure Ordered (serve : Server → Request → Server × Frame) (server : Server)
    (pipe : Pipe Server Request Frame Miss) : Prop where
  paced : pipe.readings.length ≤ pipe.sent.length
  served_le : pipe.served ≤ pipe.sent.length
  server_eq : pipe.server = serverAfter serve server (pipe.sent.take pipe.served)
  answered : pipe.readings.filterMap Reading.answer ++
      pipe.underway.filterMap numbered =
    (answers serve server (pipe.sent.take pipe.served)).zipIdx

/-- At the start nothing has been sent. -/
theorem ordered_initial (serve : Server → Request → Server × Frame) (server : Server) :
    Ordered serve server (initial server : Pipe Server Request Frame Miss) :=
  ⟨le_refl _, le_refl _, rfl, rfl⟩

variable {pipe : Pipe Server Request Frame Miss}

/-- Every step keeps the order. -/
theorem ordered_step (hordered : Ordered serve server pipe)
    (move : PipeMove Request Frame Miss) : Ordered serve server (pipe.step serve move) := by
  have hpaced := hordered.paced
  cases move with
  | send request =>
    rw [step]
    split_ifs with hidle
    · have htake : (pipe.sent ++ [request]).take pipe.served = pipe.sent.take pipe.served :=
        List.take_append_of_le_length hordered.served_le
      refine ⟨?_, ?_, ?_, ?_⟩
      · rw [List.length_append]
        exact Nat.le_add_right_of_le hpaced
      · rw [List.length_append]
        exact Nat.le_add_right_of_le hordered.served_le
      · rw [htake]
        exact hordered.server_eq
      · rw [htake]
        exact hordered.answered
    · exact hordered
  | serve =>
    rw [step]
    cases hnext : pipe.sent[pipe.served]? with
    | none => exact hordered
    | some request =>
      obtain ⟨hlt, hget⟩ := List.getElem?_eq_some_iff.mp hnext
      have htake : pipe.sent.take (pipe.served + 1) = pipe.sent.take pipe.served ++ [request] := by
        rw [List.take_add_one, hnext, Option.toList_some]
      have hlength : (answers serve server (pipe.sent.take pipe.served)).length = pipe.served := by
        rw [length_answers, List.length_take, Nat.min_eq_left hordered.served_le]
      refine ⟨hpaced, hlt, ?_, ?_⟩
      · simp only [htake, serverAfter, List.foldl_concat]
        rw [hordered.server_eq, serverAfter]
      · simp only [htake, answers_concat, List.zipIdx_append, hlength, List.filterMap_append]
        rw [← List.append_assoc, hordered.answered, hordered.server_eq, Nat.zero_add]
        rfl
  | push frame =>
    refine ⟨hpaced, hordered.served_le, hordered.server_eq, ?_⟩
    rw [step, List.filterMap_append, List.filterMap_cons_none rfl, List.filterMap_nil,
      List.append_nil]
    exact hordered.answered
  | receive =>
    rw [step]
    split_ifs with hidle
    · exact hordered
    · have hwaits : pipe.readings.length < pipe.sent.length := lt_of_le_of_ne hpaced hidle
      cases hunderway : pipe.underway with
      | nil => exact hordered
      | cons first rest =>
        obtain ⟨about, frame⟩ := first
        refine ⟨?_, hordered.served_le, hordered.server_eq, ?_⟩
        · rw [List.length_append]
          exact hwaits
        · have hanswered := hordered.answered
          rw [hunderway] at hanswered
          rw [← hanswered, List.filterMap_append, List.append_assoc]
          cases about with
          | none => rfl
          | some number => rfl
  | miss miss =>
    rw [step]
    split_ifs with hidle
    · exact hordered
    · have hwaits : pipe.readings.length < pipe.sent.length := lt_of_le_of_ne hpaced hidle
      refine ⟨?_, hordered.served_le, hordered.server_eq, ?_⟩
      · rw [List.length_append]
        exact hwaits
      · rw [List.filterMap_append, List.filterMap_cons_none rfl, List.filterMap_nil,
          List.append_nil]
        exact hordered.answered

/-- An element of a prefix is the element of the list at its place. -/
theorem getElem?_of_prefix {Item : Type} {front items : List Item} (hfront : front <+: items)
    {number : ℕ} {item : Item} (hitem : front[number]? = some item) :
    items[number]? = some item := by
  obtain ⟨rest, rfl⟩ := hfront
  rw [List.getElem?_append_left (List.getElem?_eq_some_iff.mp hitem).1, hitem]

/-- An element that a filter keeps stands behind those kept before it. -/
theorem getElem?_filterMap_of_some {Item Image : Type} (keep : Item → Option Image)
    {items : List Item} {number : ℕ} {item : Item} {image : Image}
    (hitem : items[number]? = some item) (hkeep : keep item = some image) :
    (items.filterMap keep)[((items.take number).filterMap keep).length]? = some image := by
  obtain ⟨hlt, rfl⟩ := List.getElem?_eq_some_iff.mp hitem
  have hsplit : items = items.take number ++ items[number] :: items.drop (number + 1) := by
    rw [← List.drop_eq_getElem_cons hlt, List.take_append_drop]
  have hkept : items.filterMap keep = (items.take number).filterMap keep ++
      image :: (items.drop (number + 1)).filterMap keep := by
    conv_lhs => rw [hsplit]
    rw [List.filterMap_append, List.filterMap_cons_some hkeep]
  rw [hkept, List.getElem?_append_right (le_refl _), Nat.sub_self, List.getElem?_cons_zero]

/-- The readings without an answer before a number. -/
def missing (pipe : Pipe Server Request Frame Miss) (number : ℕ) : ℕ :=
  (pipe.readings.take number).countP fun reading ↦ reading.answer.isNone

/-- An answer is read for the request that comes as many places behind its own as there were
readings without an answer before. -/
theorem answer_number (hordered : Ordered serve server pipe) {number answered : ℕ} {frame : Frame}
    (hreading : pipe.readings[number]? = some (.read (some answered) frame)) :
    answered + pipe.missing number = number ∧
      (answers serve server pipe.sent)[answered]? = some frame := by
  have hplace := getElem?_filterMap_of_some Reading.answer hreading rfl
  have hfront : pipe.readings.filterMap Reading.answer <+:
      (answers serve server (pipe.sent.take pipe.served)).zipIdx := ⟨_, hordered.answered⟩
  have hzip := getElem?_of_prefix hfront hplace
  rw [List.getElem?_zipIdx, Option.map_eq_some_iff] at hzip
  obtain ⟨found, hfound, hpair⟩ := hzip
  obtain ⟨rfl, hindex⟩ := Prod.mk.inj hpair
  rw [Nat.zero_add] at hindex
  have hlt : number < pipe.readings.length := (List.getElem?_eq_some_iff.mp hreading).1
  have hcount : ((pipe.readings.take number).filterMap Reading.answer).length +
      pipe.missing number = number := by
    have hnone : (fun reading : Reading Frame Miss ↦ decide ¬ reading.answer.isSome = true) =
        fun reading ↦ reading.answer.isNone := by
      funext reading
      cases reading.answer <;> rfl
    have hsplit : (pipe.readings.take number).length = _ :=
      List.length_eq_countP_add_countP fun reading ↦ reading.answer.isSome
    rw [List.length_take, Nat.min_eq_left hlt.le, hnone] at hsplit
    rw [List.length_filterMap_eq_countP, missing]
    exact hsplit.symm
  rw [hindex] at hcount hfound
  refine ⟨hcount, ?_⟩
  exact getElem?_of_prefix (answers_take pipe.sent pipe.served) hfound

/-- The client reads the answer to a request itself exactly when it has read an answer for every
request before. -/
theorem own_answer_iff (hordered : Ordered serve server pipe) {number answered : ℕ} {frame : Frame}
    (hreading : pipe.readings[number]? = some (.read (some answered) frame)) :
    answered = number ↔ ∀ reading ∈ pipe.readings.take number, reading.answer.isSome := by
  have hnumber := (answer_number hordered hreading).1
  have hnone : pipe.missing number = 0 ↔
      ∀ reading ∈ pipe.readings.take number, reading.answer.isSome := by
    simp [missing, List.countP_eq_zero, Option.isSome_iff_ne_none]
  rw [← hnone]
  omega

end Pipe

end Library.Pipelining
