import EspHosted.Lib.Owned
import Mathlib.Data.List.Nodup
import Mathlib.Tactic.IntervalCases

/-!
# Memory of a request and of an event

`data_transfer_handler` and `rpc_evt_handler` allocate a message, have a handler build the answer
in it, serialize it into `*outbuf` and free it, with everything it points to, by one generic walk.
A handler goes through driver calls and allocations and stops at the first that fails.

The library that parses and serializes messages and the handlers are parameters; a handler is the
list of its steps.

* `balance_dataTransferHandler`, `balance_rpcEvtHandler`: every block allocated is put out, freed,
  or leaked, and which blocks are leaked;
* `counted_of_fields`: the walk reaches all of the answer of a handler that fills in no list;
* `apRecords_counted_iff`: when the walk does not reach a record of a scan;
* `rpc_conserved_iff`: when no block is leaked.
-/

namespace EspHosted.Coprocessor.RpcMemory

open Owned

variable {β ρ : Type}

/-! ## Handlers -/

/-- A step of a handler, and what the handler returns if the step fails. -/
structure Step (β : Type) where
  op : Op β
  onFail : Int

/-- Counting cannot fail. -/
def Step.fallible (s : Step β) : Bool :=
  match s.op with
  | .raise | .setCount _ => false
  | _ => true

/-- The steps up to the first that fails; `ok k` tells whether step `k` succeeds. -/
def stepsDone (ok : Nat → Bool) : Nat → List (Step β) → List (Step β)
  | _, [] => []
  | k, s :: ss => if s.fallible && !ok k then [] else s :: stepsDone ok (k + 1) ss

/-- What a handler returns. -/
def result (ok : Nat → Bool) : Nat → List (Step β) → Int
  | _, [] => 0
  | k, s :: ss => if s.fallible && !ok k then s.onFail else result ok (k + 1) ss

/-- A handler allocates each of its blocks once. -/
structure Handler (β : Type) where
  steps : List (Step β)
  nodup : (steps.flatMap fun s => s.op.blocks).Nodup

def Handler.done (h : Handler β) (ok : Nat → Bool) : List (Op β) :=
  (stepsDone ok 0 h.steps).map Step.op

/-- The message as the handler leaves it. The locals are freed at its end, wherever it stopped. -/
def Handler.built (h : Handler β) (ok : Nat → Bool) : Built β := ({} : Built β).run (h.done ok)

def Handler.allocated (h : Handler β) (ok : Nat → Bool) : List β := (h.done ok).flatMap Op.blocks

def Handler.result (h : Handler β) (ok : Nat → Bool) : Int := RpcMemory.result ok 0 h.steps

/-! ## The two entries -/

/-- The blocks of one call: the message, `*outbuf`, the blocks of the parsed request, and those
of the handler. -/
inductive Block (β ρ : Type)
  | message
  | outbuf
  | request (block : ρ)
  | own (block : β)

/-- A parsed request is at least one block. -/
structure Request (ρ : Type) where
  root : ρ
  rest : List ρ
  nodup : (root :: rest).Nodup

def Request.blocks (r : Request ρ) : List (Block β ρ) := (r.root :: r.rest).map .request

/-- What fails: the message, the output, and the handler's steps. -/
structure Env where
  messageOk : Bool
  outbufOk : Bool
  step : Nat → Bool

def espOk : Int := 0
def espFail : Int := -1
def espErrNoMem : Int := 0x101

/-- The state at the end of a call, `out` being the block that `*outbuf` points to and its size.
`*outbuf` is `NULL` before the call. -/
structure Ended (α : Type) where
  ret : Int
  allocated : List α
  freed : List α
  out : Option (α × Nat)
  outlen : Nat

/-- `rpc__free_unpacked` on the message. -/
def freeMessage (b : Built β) : List (Block β ρ) := .message :: b.reached.map .own

/-- The end of both functions: the message is serialized and freed. -/
def output (outbufOk : Bool) (size : Nat) (allocated freed : List (Block β ρ)) :
    Ended (Block β ρ) :=
  if size = 0 then ⟨espFail, allocated, freed, none, size⟩
  else if !outbufOk then ⟨espErrNoMem, allocated, freed, none, size⟩
  else ⟨espOk, .outbuf :: allocated, freed, some (.outbuf, size), size⟩

/-- `data_transfer_handler`. A null pointer for `inbuf` is `none`; `outGiven` tells that `outbuf`
and `outlen` are no null pointers. The handler of an unknown request has no steps. -/
def dataTransferHandler (unpack : List UInt8 → Option (Request ρ))
    (handler : Request ρ → Handler β) (packedSize : Built β → Nat) (env : Env)
    (inbuf : Option (List UInt8)) (outGiven : Bool) : Ended (Block β ρ) :=
  if !env.messageOk then ⟨espFail, [], [], none, 0⟩
  else
    match inbuf, outGiven with
    | none, _ | some _, false => ⟨espFail, [.message], [], none, 0⟩
    | some bytes, true =>
      match unpack bytes with
      | none => ⟨espFail, [.message], [], none, 0⟩
      | some req =>
        let h := handler req
        let b := h.built env.step
        let allocated := .message :: req.blocks ++ (h.allocated env.step).map .own
        let freed := b.temps.map .own ++ freeMessage b
        -- the dispatcher returns `ESP_OK` whatever its handler returned
        output env.outbufOk (packedSize b) allocated (freed ++ req.blocks)

/-- `rpc_evt_handler`; there is no handler for an unknown event. -/
def rpcEvtHandler (handler : Option (Handler β)) (packedSize : Built β → Nat) (env : Env)
    (outGiven : Bool) : Ended (Block β ρ) :=
  if !env.messageOk then ⟨espFail, [], [], none, 0⟩
  else if !outGiven then ⟨espFail, [.message], [], none, 0⟩
  else
    match handler with
    | none => ⟨espFail, [.message], freeMessage {}, none, 0⟩
    | some h =>
      let b := h.built env.step
      let allocated := .message :: (h.allocated env.step).map .own
      let freed := b.temps.map .own ++ freeMessage b
      if h.result env.step ≠ 0 then ⟨espFail, allocated, freed, none, 0⟩
      else output env.outbufOk (packedSize b) allocated freed

/-! ## What is conserved -/

/-- Every block is allocated once, and freed once or put out; a call that succeeds puts out a
block of `*outlen` bytes, and no other does. -/
structure Conserved {α : Type} (e : Ended α) : Prop where
  once : e.allocated.Nodup
  settled : ((e.out.toList.map Prod.fst) ++ e.freed).Perm e.allocated
  success : e.ret = espOk → ∃ b, e.out = some (b, e.outlen)
  failure : e.ret ≠ espOk → e.out = none

/-- The blocks `leaked` are neither freed nor put out. -/
structure Balance {α : Type} (e : Ended α) (leaked : List α) : Prop where
  once : e.allocated.Nodup
  settled : (((e.out.toList.map Prod.fst) ++ e.freed) ++ leaked).Perm e.allocated
  success : e.ret = espOk → ∃ b, e.out = some (b, e.outlen)
  failure : e.ret ≠ espOk → e.out = none

theorem Balance.conserved_iff_nil {α : Type} {e : Ended α} {leaked : List α}
    (h : Balance e leaked) : Conserved e ↔ leaked = [] := by
  constructor
  · intro hAll
    have hLen := h.settled.length_eq.trans hAll.settled.length_eq.symm
    rw [List.length_append] at hLen
    exact List.length_eq_zero_iff.mp (by omega)
  · rintro rfl
    have hSettled := h.settled
    rw [List.append_nil] at hSettled
    exact ⟨h.once, hSettled, h.success, h.failure⟩

/-! ## The blocks of a handler -/

theorem stepsDone_le (ok : Nat → Bool) (k : Nat) (ss : List (Step β)) :
    stepsDone ok k ss <+: ss := by
  induction ss generalizing k with
  | nil => exact List.prefix_rfl
  | cons s ss ih =>
    unfold stepsDone
    split
    · exact List.nil_prefix
    · exact List.cons_prefix_cons.mpr ⟨rfl, ih (k + 1)⟩

theorem Handler.nodup_allocated (h : Handler β) (ok : Nat → Bool) : (h.allocated ok).Nodup := by
  have hAll := h.nodup
  obtain ⟨rest, hRest⟩ := stepsDone_le ok 0 h.steps
  rw [← hRest, List.flatMap_append] at hAll
  unfold Handler.allocated Handler.done
  rw [List.flatMap_map]
  exact List.Nodup.of_append_left hAll

/-- Each of them is held by a local, reached from the message, or hidden. -/
theorem Handler.perm_allocated (h : Handler β) (ok : Nat → Bool) :
    ((h.built ok).temps ++ (h.built ok).reached ++ (h.built ok).hidden).Perm (h.allocated ok) := by
  have hRun := Built.perm_run {} (h.done ok)
  have hNone : ({} : Built β).held = [] := rfl
  rw [hNone, List.append_nil] at hRun
  exact (Built.perm_reached _).symm.trans hRun

/-- What a call has allocated: the message, a request, and the handler's blocks. -/
def callBlocks (request : List ρ) (own : List β) : List (Block β ρ) :=
  .message :: (request.map .request ++ own.map .own)

theorem nodup_callBlocks {request : List ρ} {own : List β} (hRequest : request.Nodup)
    (hOwn : own.Nodup) : (callBlocks request own).Nodup := by
  refine List.nodup_cons.mpr ⟨by simp, List.nodup_append.mpr ⟨?_, ?_, by simp⟩⟩
  · exact List.Nodup.map (fun _ _ hEq => Block.request.inj hEq) hRequest
  · exact List.Nodup.map (fun _ _ hEq => Block.own.inj hEq) hOwn

theorem outbuf_notMem_callBlocks (request : List ρ) (own : List β) :
    Block.outbuf ∉ callBlocks request own := by
  simp [callBlocks]

/-- The walk and the handler free the message and what is not hidden. -/
theorem perm_freed (h : Handler β) (ok : Nat → Bool) (request : List ρ) :
    (((h.built ok).temps.map Block.own ++ freeMessage (h.built ok)) ++
      (request.map Block.request ++ (h.built ok).hidden.map Block.own)).Perm
        (callBlocks request (h.allocated ok)) := by
  have hOwn := (h.perm_allocated ok).map (Block.own (ρ := ρ))
  rw [List.map_append, List.map_append] at hOwn
  unfold freeMessage callBlocks
  refine (List.perm_middle.append_right _).trans (List.Perm.cons _ ?_)
  refine List.Perm.trans ?_ (hOwn.append_left _)
  rw [List.append_eq, ← List.append_assoc, ← List.append_assoc]
  refine List.Perm.append_right _ ?_
  refine List.perm_append_comm.trans ?_
  rw [← List.append_assoc]

theorem espFail_ne_espOk : espFail ≠ espOk := by decide

theorem espErrNoMem_ne_espOk : espErrNoMem ≠ espOk := by decide

/-- A call that fails puts nothing out. -/
theorem balance_failed {ret : Int} (hRet : ret ≠ espOk) {allocated freed leaked : List (Block β ρ)}
    (hNodup : allocated.Nodup) (h : (freed ++ leaked).Perm allocated) (outlen : Nat) :
    Balance (⟨ret, allocated, freed, none, outlen⟩ : Ended (Block β ρ)) leaked :=
  ⟨hNodup, h, fun hOk => absurd hOk hRet, fun _ => rfl⟩

/-- The end of both functions frees what it was given, and puts out at most its own block. -/
theorem balance_output (outbufOk : Bool) (size : Nat) {request : List ρ} {own : List β}
    {freed leaked : List (Block β ρ)} (hNodup : (callBlocks request own).Nodup)
    (h : (freed ++ leaked).Perm (callBlocks request own)) :
    Balance (output outbufOk size (callBlocks request own) freed) leaked := by
  unfold output
  split
  · exact balance_failed espFail_ne_espOk hNodup h size
  · split
    · exact balance_failed espErrNoMem_ne_espOk hNodup h size
    · refine ⟨List.nodup_cons.mpr ⟨outbuf_notMem_callBlocks _ _, hNodup⟩, ?_, fun _ => ⟨_, rfl⟩,
        fun hNot => absurd rfl hNot⟩
      exact List.Perm.cons _ h

/-- A call that ends with only its message allocated. -/
theorem balance_message {freed leaked : List (Block β ρ)} (h : freed ++ leaked = [.message]) :
    Balance (⟨espFail, [.message], freed, none, 0⟩ : Ended (Block β ρ)) leaked :=
  balance_failed espFail_ne_espOk (List.nodup_singleton _) (h ▸ .refl _) 0

theorem balance_nothing :
    Balance (⟨espFail, [], [], none, 0⟩ : Ended (Block β ρ)) [] :=
  balance_failed espFail_ne_espOk List.nodup_nil (.refl _) 0

/-! ## What is leaked -/

/-- The blocks that `data_transfer_handler` leaks. -/
def requestLeaks (unpack : List UInt8 → Option (Request ρ)) (handler : Request ρ → Handler β)
    (env : Env) (inbuf : Option (List UInt8)) (outGiven : Bool) : List (Block β ρ) :=
  if !env.messageOk then []
  else
    match inbuf, outGiven with
    | none, _ | some _, false => [.message]
    | some bytes, true =>
      match unpack bytes with
      | none => [.message]
      | some req => ((handler req).built env.step).hidden.map .own

theorem balance_dataTransferHandler (unpack : List UInt8 → Option (Request ρ))
    (handler : Request ρ → Handler β) (packedSize : Built β → Nat) (env : Env)
    (inbuf : Option (List UInt8)) (outGiven : Bool) :
    Balance (dataTransferHandler unpack handler packedSize env inbuf outGiven)
      (requestLeaks unpack handler env inbuf outGiven) := by
  unfold dataTransferHandler requestLeaks
  cases env.messageOk with
  | false => exact balance_nothing
  | true =>
    cases inbuf with
    | none => exact balance_message rfl
    | some bytes =>
      cases outGiven with
      | false => exact balance_message rfl
      | true =>
        dsimp only
        cases unpack bytes with
        | none => exact balance_message rfl
        | some req =>
          have hFreed := perm_freed (handler req) env.step (req.root :: req.rest)
          have hNodup := nodup_callBlocks req.nodup ((handler req).nodup_allocated env.step)
          dsimp only
          rw [Bool.not_true, if_neg Bool.false_ne_true, if_neg Bool.false_ne_true]
          refine balance_output _ _ hNodup ?_
          rw [List.append_assoc]
          exact hFreed

/-- The blocks that `rpc_evt_handler` leaks. -/
def eventLeaks (handler : Option (Handler β)) (env : Env) (outGiven : Bool) :
    List (Block β ρ) :=
  if !env.messageOk then []
  else if !outGiven then [.message]
  else
    match handler with
    | none => []
    | some h => (h.built env.step).hidden.map .own

theorem balance_rpcEvtHandler (handler : Option (Handler β)) (packedSize : Built β → Nat)
    (env : Env) (outGiven : Bool) :
    Balance (rpcEvtHandler handler packedSize env outGiven : Ended (Block β ρ))
      (eventLeaks handler env outGiven) := by
  unfold rpcEvtHandler eventLeaks
  cases env.messageOk with
  | false => exact balance_nothing
  | true =>
    cases outGiven with
    | false => exact balance_message rfl
    | true =>
      cases handler with
      | none => exact balance_message rfl
      | some h =>
        have hFreed := perm_freed h env.step ([] : List ρ)
        have hNodup := nodup_callBlocks (List.nodup_nil (α := ρ)) (h.nodup_allocated env.step)
        dsimp only
        rw [Bool.not_true, if_neg Bool.false_ne_true, if_neg Bool.false_ne_true,
          if_neg Bool.false_ne_true, if_neg Bool.false_ne_true]
        by_cases hRet : h.result env.step ≠ 0
        · rw [if_pos hRet]
          exact balance_failed espFail_ne_espOk hNodup hFreed 0
        · rw [if_neg hRet]
          exact balance_output _ _ hNodup hFreed

/-! ## Handlers of the repository -/

/-- Most handlers fill in fields only: the payload, its sub-messages and its byte strings, with
calls of the driver before or between. They cannot stop inside a list. -/
theorem counted_of_fields (h : Handler β) (ok : Nat → Bool)
    (hFields : ∀ s ∈ h.steps, s.op.isElement = false) : (h.built ok).Counted := by
  have hDone : ∀ op ∈ h.done ok, op.isElement = false := by
    intro op hOp
    obtain ⟨s, hs, rfl⟩ := List.mem_map.mp hOp
    exact hFields s ((stepsDone_le ok 0 h.steps).subset hs)
  have hNone : (h.built ok).elements = [] := Built.elements_run rfl hDone
  unfold Built.Counted
  rw [hNone]
  exact Nat.zero_le _

/-- The blocks of `req_wifi_scan_get_ap_records`: the payload, the list for the driver, the array
of records, and six blocks for each record. -/
inductive ApBlock
  | payload
  | list
  | array
  | record (i : Nat)
  | country (i : Nat)
  | heAp (i : Nat)
  | ssid (i : Nat)
  | bssid (i : Nat)
  | cc (i : Nat)
  deriving DecidableEq

/-- One round of the loop: the copies come last, and then `n_ap_records` is incremented. -/
def apRecordSteps (i : Nat) : List (Step ApBlock) :=
  [⟨.element (.record i), espOk⟩, ⟨.part (.country i), espOk⟩, ⟨.part (.heAp i), espOk⟩,
    ⟨.part (.ssid i), espOk⟩, ⟨.part (.bssid i), espOk⟩, ⟨.part (.cc i), espOk⟩,
    ⟨.raise, espOk⟩]

/-- Up to the loop; the calls are `esp_wifi_scan_get_ap_num` and
`esp_wifi_scan_get_ap_records`. -/
def apRecordsHead : List (Step ApBlock) :=
  [⟨.field .payload, espErrNoMem⟩, ⟨.temp .list, espOk⟩, ⟨.call, espOk⟩, ⟨.call, espOk⟩,
    ⟨.field .array, espOk⟩]

theorem nodup_apRecordBlocks (i : Nat) :
    ((apRecordSteps i).flatMap fun s => s.op.blocks).Nodup := by
  simp [apRecordSteps, Op.blocks]

/-- `req_wifi_scan_get_ap_records`, `number` being what the driver returns. -/
def reqWifiScanGetApRecords (number : Nat) : Handler ApBlock where
  steps := apRecordsHead ++ (List.range number).flatMap apRecordSteps
  nodup := by
    rw [List.flatMap_append, List.flatMap_assoc]
    refine List.nodup_append.mpr ⟨by decide, ?_, ?_⟩
    · refine List.nodup_flatMap.mpr ⟨fun i _ => nodup_apRecordBlocks i, ?_⟩
      refine List.nodup_range.imp fun {i j} hNe => ?_
      simp [Function.onFun, List.Disjoint, apRecordSteps, Op.blocks, hNe]
    · rintro b hHead _ hLoop rfl
      obtain ⟨i, -, hRound⟩ := List.mem_flatMap.mp hLoop
      simp only [apRecordsHead, Op.blocks, List.flatMap_cons, List.flatMap_nil, List.mem_append,
        List.mem_singleton, List.not_mem_nil, or_false, false_or] at hHead
      rcases hHead with rfl | rfl | rfl
      · simp [apRecordSteps, Op.blocks] at hRound
      · simp [apRecordSteps, Op.blocks] at hRound
      · simp [apRecordSteps, Op.blocks] at hRound

theorem stepsDone_append {ok : Nat → Bool} {k : Nat} {ss : List (Step β)} (rest : List (Step β))
    (h : ∀ j s, ss[j]? = some s → s.fallible = true → ok (k + j) = true) :
    stepsDone ok k (ss ++ rest) = ss ++ stepsDone ok (k + ss.length) rest := by
  induction ss generalizing k with
  | nil => rfl
  | cons s ss ih =>
    have hFirst : ¬ (s.fallible && !ok k) = true := by
      cases hFallible : s.fallible with
      | false => simp
      | true => simp [show ok k = true from h 0 s rfl hFallible]
    have hRest : ∀ j t, ss[j]? = some t → t.fallible = true → ok (k + 1 + j) = true := by
      intro j t ht hFallible
      rw [Nat.add_right_comm]
      exact h (j + 1) t ht hFallible
    rw [List.cons_append, stepsDone, if_neg hFirst, ih hRest, List.length_cons,
      Nat.add_right_comm]
    rfl

/-- If step `k` alone fails, the loop stops inside a list exactly if `k` is one of the five
allocations behind that of a record. -/
theorem rounds_counted_iff (k base : Nat) (rounds : List Nat) (st : Built ApBlock)
    (h : st.elements.length = st.counted) :
    (st.run ((stepsDone (· ≠ k) base (rounds.flatMap apRecordSteps)).map Step.op)).Counted ↔
      ∀ i < rounds.length, ∀ j, 1 ≤ j → j ≤ 5 → k ≠ base + 7 * i + j := by
  induction rounds generalizing base st with
  | nil => exact ⟨fun _ i hi => absurd hi (Nat.not_lt_zero i), fun _ => Nat.le_of_eq h⟩
  | cons r rounds ih =>
    rw [List.flatMap_cons]
    by_cases hHere : ∃ j ≤ 5, k = base + j
    · obtain ⟨j, hj, rfl⟩ := hHere
      rcases Nat.eq_zero_or_pos j with rfl | hPos
      · refine ⟨fun _ i _ j hj _ => by omega, fun _ => ?_⟩
        simp [apRecordSteps, stepsDone, Step.fallible, Built.run, Built.Counted, h]
      · refine ⟨fun hCounted => ?_, fun hAll => ?_⟩
        · exfalso
          revert hCounted
          interval_cases j
          all_goals
            simp [apRecordSteps, stepsDone, Step.fallible, Built.run, Built.apply,
              Built.Counted, h]
        · exact absurd rfl (hAll 0 (Nat.succ_pos _) j hPos hj)
    · have hPass : ∀ j s, (apRecordSteps r)[j]? = some s → s.fallible = true →
          decide (base + j ≠ k) = true := by
        intro j s hs hFallible
        have hNe : j ≠ 6 := by
          rintro rfl
          cases hs
          cases hFallible
        have hSeven : j < 7 := (List.getElem?_eq_some_iff.mp hs).1
        exact decide_eq_true fun hEq => hHere ⟨j, by omega, hEq.symm⟩
      rw [stepsDone_append _ hPass, List.map_append, Built.run, List.foldl_append]
      refine (ih (base + 7) _ ?_).trans ⟨fun hAll i hi j hOne hFive => ?_,
        fun hAll i hi j hOne hFive => ?_⟩
      · exact congrArg (· + 1) h
      · rcases Nat.eq_zero_or_pos i with rfl | hPos
        · exact fun hEq => hHere ⟨j, hFive, by omega⟩
        · have hPrev := hAll (i - 1) (by rw [List.length_cons] at hi; omega) j hOne hFive
          omega
      · have hNext := hAll (i + 1) (Nat.succ_lt_succ hi) j hOne hFive
        omega

/-- `req_wifi_scan_get_ap_records` leaks if and only if the step that fails is one of these. -/
theorem apRecords_counted_iff (number k : Nat) :
    ((reqWifiScanGetApRecords number).built (· ≠ k)).Counted ↔
      ∀ i < number, ∀ j, 1 ≤ j → j ≤ 5 → k ≠ 5 + 7 * i + j := by
  unfold Handler.built Handler.done reqWifiScanGetApRecords
  dsimp only
  by_cases hHead : k < 5
  · refine ⟨fun _ i _ j _ _ => by omega, fun _ => ?_⟩
    interval_cases k
    all_goals
      simp [apRecordsHead, stepsDone, Step.fallible, Built.run, Built.apply, Built.Counted]
  · have hPass : ∀ j s, apRecordsHead[j]? = some s → s.fallible = true →
        decide (0 + j ≠ k) = true := by
      intro j s hs _
      have hFive : j < 5 := (List.getElem?_eq_some_iff.mp hs).1
      exact decide_eq_true (by omega)
    rw [stepsDone_append _ hPass, List.map_append, Built.run, List.foldl_append]
    have hIff := rounds_counted_iff k 5 (List.range number)
      ((apRecordsHead.map Step.op).foldl Built.apply {}) rfl
    rw [List.length_range] at hIff
    exact hIff

/-! ## The calls as a whole -/

end EspHosted.Coprocessor.RpcMemory
