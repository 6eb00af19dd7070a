import EspHosted.Serial.HandOver
import EspHosted.Serial.HostToSlave
import EspHosted.Serial.Splice

/-!
# Lost frames on the way to the co-processor

Any of the frames that `serial_ll_write` produces may be missing when the rest arrives at
`process_serial_rx_pkt`. The host leaves the sequence number of every frame 0, so that the
co-processor sees no difference between the frames of two messages.

* `step_inv`: along the steps of `Steady` the requests are the groups of what arrives, cut at the
  size of `r.data`;
* `whole_iff`: when the groups are the messages all of whose frames arrive;
* `requests_iff`: so when the co-processor handles whole messages and no others.
-/

namespace EspHosted.Serial.LossToSlave

open Fragments Loss Machine Splice HandOver
open SlaveRx (noteSeqNo)

/-! ## The host -/

/-- A message and all the frames it consists of. -/
structure SentMsg where
  msg : List UInt8
  frames : List Tagged

/-- The messages that `serial_ll_write` does not refuse, numbered from `k` on. -/
def hostSends (t : Transport) (k : Nat) : List (List UInt8) → List SentMsg
  | [] => []
  | w :: ws =>
    if w.length = 0 ∨ maxFragmentablePayloadSize < w.length then hostSends t k ws
    else ⟨w, tagFrames k (serialLlWrite t (fun _ => true) w w.length).1⟩ :: hostSends t (k + 1) ws

/-! ## The co-processor -/

/-- The request that is made of a group of frames. -/
def request (g : List Tagged) : List UInt8 := (bytes g).take rxDataSize

/-- `process_serial_rx_pkt` computes `rem_buff_size` when no complete message is in `r`, or the
frame fits behind it. -/
def Steady (s : State) : Action → Prop
  | .recvFrame => (s.r.valid = false ∧ s.pserialPc.clearing = false) ∨
      ∀ f ∈ s.input.head?, s.r.data.length + f.payload.length ≤ rxDataSize
  | a => Careful s a

instance (s : State) : (a : Action) → Decidable (Steady s a)
  | .recvFrame => inferInstanceAs (Decidable (_ ∨ _))
  | .acceptFrame => inferInstanceAs (Decidable (Careful s .acceptFrame))
  | .copyReq ok => inferInstanceAs (Decidable (Careful s (.copyReq ok)))
  | .sendReq ok => inferInstanceAs (Decidable (Careful s (.sendReq ok)))
  | .event .. | .dequeue | .readData | .clearLen | .clearSeqNo | .handleReq => .isTrue trivial

/-- Every frame is accepted. -/
def AllRead (s : State) : Prop := s.input = [] ∧ ∀ f rem, s.recvPc ≠ .entered f rem

/-! ## Messages and what arrives of them -/

/-- The messages all of whose frames arrive. -/
def arrived (sent : List SentMsg) (got : List Tagged) : List SentMsg :=
  sent.filter fun m => ∀ t ∈ m.frames, t ∈ got

/-- Of every message nothing arrives, or all of it, or neither its own last frame nor that of a
later message. -/
def Intact (sent : List SentMsg) (got : List Tagged) : Prop :=
  ∀ i (h : i < sent.length),
    Unbroken Tagged.more (fun _ => True) Tagged.msg got i sent[i].frames

/-- What is true of every message that the host sends. -/
structure Whole (k : Nat) (m : SentMsg) : Prop where
  number : ∀ t ∈ m.frames, t.msg = k
  marked : Marked Tagged.more m.frames
  whole : bytes m.frames = m.msg
  fits : m.msg.length ≤ rxDataSize
  seqNum : ∀ t ∈ m.frames, t.frame.seqNum = 0

theorem serialLlWrite_accepted (t : Transport) {w : List UInt8}
    (h : ¬(w.length = 0 ∨ maxFragmentablePayloadSize < w.length)) :
    (serialLlWrite t (fun _ => true) w w.length).1 =
      (fragments t.maxPayloadSize w).map hostFrame := by
  obtain ⟨hPos, hLen⟩ := not_or.mp h
  obtain ⟨fuel, hFuel⟩ : ∃ fuel, w.length = fuel + 1 := Nat.exists_eq_succ_of_ne_zero hPos
  have hSize := t.maxPayloadSize_pos
  have hIdeal := serialLlWriteLoop_ideal t.maxPayloadSize w w.length 0 w.length
  rw [serialLlWrite, if_neg hPos, if_neg hLen]
  generalize hLoop : serialLlWriteLoop t.maxPayloadSize (fun _ => true) w w.length 0 w.length =
    res at *
  obtain ⟨frames, ok⟩ := res
  have hOk : ok = true := by
    rw [show SendEnv.ideal.transmit = fun _ => true from rfl, hLoop] at hIdeal
    exact hIdeal
  subst hOk
  rw [hFuel] at hLoop
  have hFrames := serialLlWriteLoop_ok hSize w fuel 0 (by omega) (by omega)
    (by rw [Nat.sub_zero, hFuel]; exact hLoop)
  rw [hFrames, List.drop_zero, fragmentsAux_eq hSize (by omega)]

theorem whole_of_accepted (t : Transport) (k : Nat) {w : List UInt8}
    (h : ¬(w.length = 0 ∨ maxFragmentablePayloadSize < w.length)) :
    Whole k ⟨w, tagFrames k (serialLlWrite t (fun _ => true) w w.length).1⟩ := by
  have hPieces : (tagFrames k (serialLlWrite t (fun _ => true) w w.length).1).map (·.frame.piece) =
      fragments t.maxPayloadSize w := by
    have hFrames := map_frame_tagFrames k (serialLlWrite t (fun _ => true) w w.length).1
    rw [show (fun a : Tagged => a.frame.piece) = Frame.piece ∘ Tagged.frame from rfl,
      ← List.map_map, hFrames, serialLlWrite_accepted t h, List.map_map]
    refine (List.map_congr_left fun piece _ => ?_).trans (List.map_id _)
    simp [Frame.piece, hostFrame]
  obtain ⟨init, last, hEq, hSplit⟩ := fragments_split t.maxPayloadSize_pos w
  refine ⟨fun t ht => msg_of_mem_tagFrames ht, marked_of_pieces (hPieces.trans hEq), ?_,
    Nat.le_of_not_lt (not_or.mp h).2, ?_⟩
  · rw [bytes_of_pieces (hPieces.trans hEq), ← hSplit.whole]
    simp [List.map_map, Function.comp_def]
  · intro a ha
    have hFrames := map_frame_tagFrames k (serialLlWrite t (fun _ => true) w w.length).1
    have hMem : a.frame ∈ (fragments t.maxPayloadSize w).map hostFrame := by
      rw [← serialLlWrite_accepted t h, ← hFrames]
      exact List.mem_map_of_mem ha
    obtain ⟨piece, -, hFrame⟩ := List.mem_map.mp hMem
    rw [← hFrame]
    rfl

theorem hostSends_whole {t : Transport} {k : Nat} {msgs : List (List UInt8)} :
    ∀ i (h : i < (hostSends t k msgs).length), Whole (k + i) (hostSends t k msgs)[i] := by
  induction msgs generalizing k with
  | nil => exact fun i h => absurd h (Nat.not_lt_zero i)
  | cons w ws ih =>
    by_cases hRefused : w.length = 0 ∨ maxFragmentablePayloadSize < w.length
    · simp only [hostSends, if_pos hRefused]
      exact ih
    · simp only [hostSends, if_neg hRefused]
      intro i h
      cases i with
      | zero => exact whole_of_accepted t k hRefused
      | succ i =>
        have hNext := ih i (Nat.lt_of_succ_lt_succ h)
        rwa [show k + 1 + i = k + (i + 1) by omega] at hNext

/-! ## Groups of frames -/

/-- The requests that are made of frames, after `acc` in `r.data`. -/
def requests (acc : List UInt8) : List Frame → List (List UInt8)
  | [] => []
  | f :: fs =>
    let data := (acc ++ f.payload).take rxDataSize
    if f.more then requests data fs else data :: requests [] fs

theorem take_append (n : Nat) (l l' : List UInt8) :
    (l.take n ++ l').take n = (l ++ l').take n := by
  rw [List.take_append, List.take_append, List.take_take, Nat.min_self, List.length_take]
  congr 2
  omega

theorem requests_groups (acc got : List Tagged) :
    requests (request acc) (got.map (·.frame)) = (groups Tagged.more acc got).map request := by
  induction got generalizing acc with
  | nil => rfl
  | cons t got ih =>
    have hData : (request acc ++ t.frame.payload).take rxDataSize = request (acc ++ [t]) := by
      rw [request, take_append, request, bytes_append, bytes_singleton]
    simp only [List.map_cons, requests, hData]
    cases hMore : t.frame.more with
    | true =>
      have hTag : Tagged.more t = true := hMore
      have hNext : groups Tagged.more acc ([t] ++ got) = groups Tagged.more (acc ++ [t]) got :=
        groups_marked (fun a ha => List.mem_singleton.mp ha ▸ hTag) got
      rw [if_pos rfl, ih, ← hNext]
      rfl
    | false =>
      have hTag : Tagged.more t = false := hMore
      rw [if_neg Bool.noConfusion, groups_last hTag, List.map_cons, ← ih []]
      rfl

/-! ## Requests in every schedule -/

variable {frames : List Frame} {qMax : Nat} {s s' : State}

/-- The frame in the hands of `process_serial_rx_pkt`. -/
def held : HandPc → List Frame
  | .entered f _ => [f]
  | _ => []

/-- What is in `r` of the message that comes next. -/
def begun (s : State) : List UInt8 :=
  if s.r.valid = true ∨ s.pserialPc.clearing = true then [] else s.r.data

/-- `rem_buff_size` is what is left of `r.data`, or the frame fits anyway. -/
def Room (s : State) (f : Frame) (rem : Nat) : Prop :=
  (f.payload.length ≤ rem ∧ s.r.data.length + f.payload.length ≤ rxDataSize) ∨
    (s.r.valid = false ∧ s.pserialPc.clearing = false ∧ rem = rxDataSize - s.r.data.length)

/-- The requests that were reassembled, with those that will be, are those of all frames. -/
structure Inv (frames : List Frame) (s : State) : Prop where
  base : HandOver.Inv s
  split : requests [] frames = s.reassembled ++ requests (begun s) (held s.recvPc ++ s.input)
  short : s.r.data.length ≤ rxDataSize
  curSeqNo : s.r.curSeqNo = 0
  seqNum : ∀ f ∈ held s.recvPc ++ s.input, f.seqNum = 0
  room : ∀ f rem, s.recvPc = .entered f rem → Room s f rem

theorem boot_inv (hSeq : ∀ f ∈ frames, f.seqNum = 0) : Inv frames (boot frames) :=
  ⟨HandOver.boot_inv frames, rfl, Nat.zero_le _, rfl, hSeq, nofun⟩

theorem Steady.careful {a : Action} (h : Steady s a) : Careful s a := by
  cases a with
  | recvFrame => trivial
  | _ => exact h

theorem recvFrame_inv (h : Inv frames s) (hGuard : Steady s .recvFrame)
    (hStep : recvFrame s = some s') : Inv frames s' := by
  have hBase : HandOver.Inv s' := step_inv h.base (show Careful s .recvFrame from trivial)
    (show step 0 s .recvFrame = some s' from hStep)
  unfold recvFrame at hStep
  split at hStep
  · rename_i f input hPc hInput
    cases hStep
    have hFrames : held s.recvPc ++ s.input = [f] ++ input := by rw [hPc, hInput]; rfl
    refine ⟨hBase, ?_, h.short, h.curSeqNo, ?_, ?_⟩
    · rw [h.split, hFrames]
      rfl
    · intro g hg
      exact h.seqNum g (by rw [hFrames]; exact hg)
    · rintro g rem ⟨⟩
      rcases hGuard with ⟨hValid, hClearing⟩ | hFits
      · exact .inr ⟨hValid, hClearing, rfl⟩
      · have hFit := hFits f (by rw [hInput]; rfl)
        exact .inl ⟨Nat.le_sub_of_add_le (Nat.add_comm _ _ ▸ hFit), hFit⟩
  · cases hStep

/-- The payload is appended as far as there is room. -/
theorem Room.append {f : Frame} {rem : Nat} (h : Room s f rem)
    (hShort : s.r.data.length ≤ rxDataSize) :
    s.r.data ++ f.payload.take (min f.payload.length rem) =
      (s.r.data ++ f.payload).take rxDataSize := by
  rcases h with ⟨hRem, hFits⟩ | ⟨-, -, rfl⟩
  · rw [Nat.min_eq_left hRem, List.take_length,
      List.take_of_length_le (by rw [List.length_append]; exact hFits)]
  · rw [List.take_append, List.take_of_length_le hShort, Nat.min_comm, ← List.take_take,
      List.take_length]

theorem acceptFrame_inv (h : Inv frames s) (hGuard : Careful s .acceptFrame)
    (hStep : acceptFrame s = some s') : Inv frames s' := by
  have hBase : HandOver.Inv s' := step_inv h.base (show Careful s .acceptFrame from hGuard)
    (show step 0 s .acceptFrame = some s' from hStep)
  unfold acceptFrame at hStep
  split at hStep
  · rename_i f rem hPc
    split at hStep
    · cases hStep
    · rename_i hValid
      have hFrames : held s.recvPc ++ s.input = f :: s.input := by rw [hPc]; rfl
      have hSeq : f.seqNum = 0 := h.seqNum f (by rw [hFrames]; exact List.mem_cons_self)
      have hRest : ∀ g ∈ s.input, g.seqNum = 0 := fun g hg =>
        h.seqNum g (by rw [hFrames]; exact List.mem_cons_of_mem f hg)
      have hClearing : s.pserialPc.clearing ≠ true := fun hTrue => by
        rw [show s.pserialPc.clearing = false from hGuard] at hTrue
        cases hTrue
      have hBegun : begun s = s.r.data := if_neg (not_or.mpr ⟨hValid, hClearing⟩)
      have hData := (h.room f rem hPc).append h.short
      have hSplit := h.split
      rw [hFrames, hBegun, requests, ← hData] at hSplit
      dsimp only at hStep
      rw [HostToSlave.noteSeqNo_zero hSeq h.curSeqNo,
        if_neg (fun hNe => hNe (hSeq.trans h.curSeqNo.symm))] at hStep
      have hShort : (s.r.data ++ f.payload.take (min f.payload.length rem)).length ≤
          rxDataSize := by
        rw [hData, List.length_take]
        exact Nat.min_le_left _ _
      split at hStep
      · rename_i hMore
        rw [if_pos hMore] at hSplit
        cases hStep
        refine ⟨hBase, ?_, hShort, h.curSeqNo, hRest, nofun⟩
        rw [hSplit]
        refine congrArg (s.reassembled ++ requests · s.input) ?_
        exact (if_neg (not_or.mpr ⟨hValid, hClearing⟩)).symm
      · rename_i hMore
        rw [if_neg hMore] at hSplit
        cases hStep
        refine ⟨hBase, ?_, hShort, h.curSeqNo, hRest, nofun⟩
        rw [hSplit, List.append_assoc]
        rfl
  · cases hStep

/-- A step that leaves alone what the frames are put into. -/
theorem Inv.kept (h : Inv frames s) (hBase : HandOver.Inv s')
    (hReassembled : s'.reassembled = s.reassembled) (hBegun : begun s' = begun s)
    (hHeld : held s'.recvPc = held s.recvPc) (hInput : s'.input = s.input)
    (hLen : s'.r.data.length ≤ s.r.data.length) (hSeq : s'.r.curSeqNo = 0)
    (hRoom : ∀ f rem, s'.recvPc = .entered f rem → Room s' f rem) : Inv frames s' := by
  refine ⟨hBase, ?_, Nat.le_trans hLen h.short, hSeq, ?_, hRoom⟩
  · rw [hReassembled, hBegun, hHeld, hInput]
    exact h.split
  · rw [hHeld, hInput]
    exact h.seqNum

/-- A step outside of `serial_read_data` keeps the room for the frame. -/
theorem room_kept (h : Inv frames s) (hPc : s'.recvPc = s.recvPc) (hR : s'.r = s.r)
    (hClearing : s.pserialPc.clearing = false → s'.pserialPc.clearing = false) :
    ∀ f rem, s'.recvPc = .entered f rem → Room s' f rem := by
  intro f rem hEntered
  unfold Room
  rw [hR]
  refine (h.room f rem (hPc ▸ hEntered)).imp_right ?_
  rintro ⟨hValid, hOutside, hRem⟩
  exact ⟨hValid, hClearing hOutside, hRem⟩

theorem handOver_inv {a : Action} (h : Inv frames s) (hGuard : Careful s a)
    (hStep : step qMax s a = some s') (hA : (∃ ok, a = .copyReq ok) ∨ ∃ ok, a = .sendReq ok) :
    Inv frames s' := by
  have hBase : HandOver.Inv s' := step_inv h.base hGuard hStep
  have hCurSeqNo := h.curSeqNo
  rcases hA with ⟨ok, rfl⟩ | ⟨ok, rfl⟩
  · simp only [step, copyReq] at hStep
    split at hStep
    · rename_i hPc
      split at hStep <;> cases hStep <;>
        exact h.kept hBase rfl rfl (by rw [hPc]; rfl) rfl (Nat.le_refl _) hCurSeqNo
          (fun _ _ h => by cases h)
    · cases hStep
  · simp only [step, sendReq] at hStep
    split at hStep
    · rename_i hPc
      split at hStep
      · cases hStep
        exact h.kept hBase rfl rfl (by rw [hPc]; rfl) rfl (Nat.le_refl _) hCurSeqNo
          (fun _ _ h => by cases h)
      · split at hStep
        · cases hStep
          exact h.kept hBase rfl rfl (by rw [hPc]; rfl) rfl (Nat.le_refl _) hCurSeqNo
            (fun _ _ h => by cases h)
        · cases hStep
    · cases hStep

theorem event_inv {msgId : Nat} {data : List UInt8} (h : Inv frames s)
    (hStep : event qMax s msgId data = some s') : Inv frames s' := by
  have hBase : HandOver.Inv s' := step_inv (a := .event msgId data) h.base trivial hStep
  unfold event at hStep
  split at hStep
  · cases hStep
    exact h.kept hBase rfl rfl rfl rfl (Nat.le_refl _) h.curSeqNo (room_kept h rfl rfl id)
  · cases hStep

theorem dequeue_inv (h : Inv frames s) (hStep : dequeue s = some s') : Inv frames s' := by
  have hBase : HandOver.Inv s' := step_inv h.base (show Careful s .dequeue from trivial)
    (show step 0 s .dequeue = some s' from hStep)
  have hClearing := (dequeue_kept hStep).2.2
  unfold dequeue at hStep
  split at hStep
  · rename_i arg reqQueue hPc hQueue
    cases hStep
    refine h.kept hBase rfl ?_ rfl rfl (Nat.le_refl _) h.curSeqNo
      (room_kept h rfl rfl fun _ => hClearing)
    unfold begun
    rw [hClearing, hPc]
    rfl
  · cases hStep

/-- While `r` is cleared, nothing of the next message is in it. -/
theorem readData_inv (h : Inv frames s) (hStep : readData s = some s') : Inv frames s' := by
  have hBase : HandOver.Inv s' := step_inv h.base (show Careful s .readData from trivial)
    (show step 0 s .readData = some s' from hStep)
  unfold readData at hStep
  split at hStep
  · rename_i data hPc
    split at hStep
    · rename_i hValid
      cases hStep
      refine h.kept hBase rfl ?_ rfl rfl (Nat.le_refl _) h.curSeqNo ?_
      · unfold begun
        rw [if_pos (.inr rfl), if_pos (.inl hValid)]
      · intro f rem hEntered
        refine (h.room f rem hEntered).imp_right ?_
        rintro ⟨hFalse, -, -⟩
        exact absurd (hFalse.symm.trans hValid) Bool.noConfusion
    · cases hStep
      refine h.kept hBase rfl ?_ rfl rfl (Nat.le_refl _) h.curSeqNo
        (room_kept h rfl rfl fun _ => rfl)
      unfold begun
      rw [hPc]
      rfl
  · cases hStep

theorem clearLen_inv (h : Inv frames s) (hStep : clearLen s = some s') : Inv frames s' := by
  have hBase : HandOver.Inv s' := step_inv h.base (show Careful s .clearLen from trivial)
    (show step 0 s .clearLen = some s' from hStep)
  unfold clearLen at hStep
  split at hStep
  · rename_i data len hPc
    cases hStep
    refine h.kept hBase rfl ?_ rfl rfl (Nat.zero_le _) h.curSeqNo ?_
    · unfold begun
      rw [hPc, if_pos (c := _ ∨ PserialPc.clearing (.validCleared data len) = true) (.inr rfl),
        ite_self]
    · intro f rem hEntered
      rcases h.room f rem hEntered with ⟨hRem, hFits⟩ | ⟨-, hOutside, -⟩
      · exact .inl ⟨hRem, Nat.le_trans (Nat.add_le_add_right (Nat.zero_le _) _) hFits⟩
      · rw [hPc] at hOutside
        cases hOutside
  · cases hStep

theorem clearSeqNo_inv (h : Inv frames s) (hStep : clearSeqNo s = some s') : Inv frames s' := by
  have hBase : HandOver.Inv s' := step_inv h.base (show Careful s .clearSeqNo from trivial)
    (show step 0 s .clearSeqNo = some s' from hStep)
  unfold clearSeqNo at hStep
  split at hStep
  · rename_i data len hPc
    cases hStep
    refine h.kept hBase rfl ?_ rfl rfl (Nat.le_refl _) rfl (fun f rem hEntered => ?_)
    · unfold begun
      rw [hPc]
      rfl
    · refine (h.room f rem hEntered).imp_right ?_
      rintro ⟨hValid, -, hRem⟩
      exact ⟨hValid, rfl, hRem⟩
  · cases hStep

theorem handleReq_inv (h : Inv frames s) (hStep : handleReq s = some s') : Inv frames s' := by
  have hBase : HandOver.Inv s' := step_inv h.base (show Careful s .handleReq from trivial)
    (show step 0 s .handleReq = some s' from hStep)
  unfold handleReq at hStep
  split at hStep
  · rename_i data len hPc
    have hBegun : begun s = if s.r.valid = true ∨ PserialPc.idle.clearing = true then []
        else s.r.data := by
      unfold begun
      rw [hPc]
      rfl
    split at hStep <;> cases hStep <;>
      exact h.kept hBase rfl hBegun.symm rfl rfl (Nat.le_refl _) h.curSeqNo
        (room_kept h rfl rfl fun _ => rfl)
  · cases hStep

theorem inv_step {a : Action} (h : Inv frames s) (hGuard : Steady s a)
    (hStep : step qMax s a = some s') : Inv frames s' := by
  cases a with
  | recvFrame => exact recvFrame_inv h hGuard hStep
  | acceptFrame => exact acceptFrame_inv h hGuard hStep
  | copyReq ok => exact handOver_inv h (Steady.careful hGuard) hStep (.inl ⟨ok, rfl⟩)
  | sendReq ok => exact handOver_inv h (Steady.careful hGuard) hStep (.inr ⟨ok, rfl⟩)
  | event msgId data => exact event_inv h hStep
  | dequeue => exact dequeue_inv h hStep
  | readData => exact readData_inv h hStep
  | clearLen => exact clearLen_inv h hStep
  | clearSeqNo => exact clearSeqNo_inv h hStep
  | handleReq => exact handleReq_inv h hStep

/-- The requests reassembled so far are the first ones, and all of them once every frame is
accepted. -/
theorem Inv.reassembled (h : Inv frames s) : s.reassembled <+: requests [] frames ∧
    (AllRead s → s.reassembled = requests [] frames) := by
  rw [h.split]
  refine ⟨List.prefix_append _ _, ?_⟩
  rintro ⟨hInput, hPc⟩
  have hHeld : held s.recvPc = [] := by
    cases hRecv : s.recvPc with
    | entered f rem => exact absurd hRecv (hPc f rem)
    | _ => rfl
  rw [hInput, hHeld, List.append_nil, requests, List.append_nil]

/-- With nothing on its way to `pserial_task`, `r` is free for the next frame. -/
theorem Inv.cleared (h : Inv frames s) (hPc : s.pserialPc = .idle) (hQueue : s.reqQueue = [])
    (hHanded : handed s.r s.recvPc = []) : s.r.valid = false := by
  have hCopy := h.base.handedOver.valid
  simp only [State.copies, hPc, hQueue, hHanded, received, HandOver.requests, List.filter_nil,
    List.map_nil, List.nil_append] at hCopy
  cases hFlag : s.r.valid with
  | false => rfl
  | true =>
    rw [hFlag] at hCopy
    cases hCopy

/-- Before every frame is accepted, some step on the way is possible and steady. -/
theorem Inv.progress (h : Inv frames s) (hMax : 0 < qMax) (hLeft : ¬ AllRead s) :
    ∃ a s', (∀ msgId data, a ≠ .event msgId data) ∧ Steady s a ∧ step qMax s a = some s' := by
  cases hPc : s.pserialPc with
  | received data =>
    refine ⟨.readData, ?_⟩
    simp only [step, readData, hPc]
    split <;> exact ⟨_, fun _ _ => HandOver.Action.noConfusion, trivial, rfl⟩
  | validCleared data len =>
    exact ⟨.clearLen, _, fun _ _ => HandOver.Action.noConfusion, trivial,
      by simp only [step, clearLen, hPc]; rfl⟩
  | lenCleared data len =>
    exact ⟨.clearSeqNo, _, fun _ _ => HandOver.Action.noConfusion, trivial,
      by simp only [step, clearSeqNo, hPc]; rfl⟩
  | handling data len =>
    refine ⟨.handleReq, ?_⟩
    simp only [step, handleReq, hPc]
    split <;> exact ⟨_, fun _ _ => HandOver.Action.noConfusion, trivial, rfl⟩
  | idle =>
    have hClearing : s.pserialPc.clearing = false := by rw [hPc]; rfl
    cases hQueue : s.reqQueue with
    | cons arg queue =>
      exact ⟨.dequeue, _, fun _ _ => HandOver.Action.noConfusion, trivial,
        by simp only [step, dequeue, hPc, hQueue]; rfl⟩
    | nil =>
      cases hRecv : s.recvPc with
      | handing =>
        exact ⟨.copyReq true, { s with recvPc := .sending s.r.data },
          fun _ _ => HandOver.Action.noConfusion, .inr rfl, by simp [step, copyReq, hRecv]⟩
      | sending copy =>
        exact ⟨.sendReq true, { s with
            reqQueue := [⟨unknownRpcMsgId, copy⟩], recvPc := .idle },
          fun _ _ => HandOver.Action.noConfusion, rfl, by simp [step, sendReq, hRecv, hQueue, hMax]⟩
      | entered f rem =>
        have hValid : s.r.valid = false := h.cleared hPc hQueue (by rw [hRecv]; rfl)
        refine ⟨.acceptFrame, ?_⟩
        simp only [step, acceptFrame, hRecv, hValid, Bool.false_eq_true, if_false]
        split
        · exact ⟨_, fun _ _ => HandOver.Action.noConfusion, hClearing, rfl⟩
        · split <;> exact ⟨_, fun _ _ => HandOver.Action.noConfusion, hClearing, rfl⟩
      | idle =>
        have hValid : s.r.valid = false := h.cleared hPc hQueue (by rw [hRecv]; rfl)
        cases hInput : s.input with
        | nil => exact absurd ⟨hInput, fun f rem h => by rw [hRecv] at h; cases h⟩ hLeft
        | cons f rest =>
          exact ⟨.recvFrame, _, fun _ _ => HandOver.Action.noConfusion, .inl ⟨hValid, hClearing⟩,
            by simp only [step, recvFrame, hRecv, hInput]; rfl⟩

/-! ## Every loss pattern -/

/-- A group is a message, and the request made of it has the bytes of that message. -/
def Exact (sent : List SentMsg) (g : List Tagged) : Prop :=
  ∃ m ∈ sent, g = m.frames ∧ request g = m.msg

theorem message_exact_iff {sent : List SentMsg}
    (hWhole : ∀ i (h : i < sent.length), Whole i sent[i])
    {m : SentMsg} (hm : m ∈ sent) {g : List Tagged} (hg : ∃ t ∈ g, t ∈ m.frames) :
    Exact sent g ↔ g = m.frames ∧ True := by
  obtain ⟨i, hi, rfl⟩ := List.mem_iff_getElem.mp hm
  obtain ⟨t, ht, hMem⟩ := hg
  rw [and_true]
  constructor
  · rintro ⟨m', hm', rfl, -⟩
    obtain ⟨j, hj, rfl⟩ := List.mem_iff_getElem.mp hm'
    obtain rfl : i = j :=
      ((hWhole i hi).number t hMem).symm.trans ((hWhole j hj).number t ht)
    rfl
  · rintro rfl
    refine ⟨sent[i], hm, rfl, ?_⟩
    rw [request, (hWhole i hi).whole, List.take_of_length_le (hWhole i hi).fits]

/-- The groups are the messages, and every message all of whose frames arrive is among them. -/
def Delivered (sent : List SentMsg) (got : List Tagged) : Prop :=
  (∀ g ∈ groups Tagged.more [] got, Exact sent g) ∧
    ∀ m ∈ sent, m.frames.Sublist got → m.frames ∈ groups Tagged.more [] got

theorem whole_iff {sent : List SentMsg} {got : List Tagged}
    (hWhole : ∀ i (h : i < sent.length), Whole i sent[i])
    (hLoss : got.Sublist (sent.flatMap (·.frames))) : Delivered sent got ↔ Intact sent got := by
  have hNumber : ∀ i (h : i < (sent.map (·.frames)).length), ∀ t ∈ (sent.map (·.frames))[i],
      t.msg = i := by
    intro i hi t ht
    rw [List.getElem_map] at ht
    exact (hWhole i (by simpa using hi)).number t ht
  have hMarked : ∀ m ∈ sent, Marked Tagged.more m.frames := by
    intro m hm
    obtain ⟨i, hi, rfl⟩ := List.mem_iff_getElem.mp hm
    exact (hWhole i hi).marked
  have hGood : ∀ m ∈ sent.map (·.frames), ∀ g, (∃ t ∈ g, t ∈ m) →
      (Exact sent g ↔ g = m ∧ True) := by
    intro m hm g hg
    obtain ⟨m', hm', rfl⟩ := List.mem_map.mp hm
    exact message_exact_iff hWhole hm' hg
  rw [List.flatMap_def] at hLoss
  have hIff := groups_good_iff_numbered Tagged.msg hNumber
    (List.forall_mem_map.mpr hMarked) hGood hLoss
  simp only [List.length_map, List.getElem_map] at hIff
  unfold Delivered Intact
  rw [← hIff]
  refine and_iff_left_of_imp fun hExact m hm hArrived => ?_
  -- the last frame of the message ends a group
  obtain ⟨init, last, hEq, -, hLast⟩ := (hMarked m hm).split
  have hMem : last ∈ m.frames := by
    rw [hEq]
    exact List.mem_append_right _ (List.mem_singleton_self _)
  obtain ⟨g, hg, hIn⟩ := mem_groups_of_end [] (hArrived.subset hMem) hLast
  have hSame := ((message_exact_iff hWhole hm ⟨last, hIn, hMem⟩).mp (hExact g hg)).1
  exact hSame ▸ hg

/-- For every sequence of messages, every loss of frames and every steady schedule: the requests
are made of the groups of what arrives, and the groups are whole messages, with none missing
that arrives whole, exactly when all messages are intact. -/
theorem requests_iff (t : Transport) (esp32c2 : Bool) {msgs : List (List UInt8)}
    {got : List Tagged} {s : State} (hLoss : got.Sublist ((hostSends t 0 msgs).flatMap (·.frames)))
    (hRun : Reaches (step (reqQMax esp32c2)) Steady (boot (got.map (·.frame))) s) :
    (s.reassembled <+: (groups Tagged.more [] got).map request ∧
      (AllRead s → s.reassembled = (groups Tagged.more [] got).map request) ∧
      (¬ AllRead s → ∃ a s', (∀ msgId data, a ≠ .event msgId data) ∧ Steady s a ∧
        step (reqQMax esp32c2) s a = some s')) ∧
    (Delivered (hostSends t 0 msgs) got ↔ Intact (hostSends t 0 msgs) got) := by
  have hWhole : ∀ i (h : i < (hostSends t 0 msgs).length), Whole i (hostSends t 0 msgs)[i] := by
    intro i hi
    have h := hostSends_whole i hi
    rwa [Nat.zero_add] at h
  have hSeq : ∀ f ∈ got.map (·.frame), f.seqNum = 0 := by
    rw [List.forall_mem_map]
    intro a ha
    obtain ⟨m, hm, hMem⟩ := List.mem_flatMap.mp (hLoss.subset ha)
    obtain ⟨i, hi, rfl⟩ := List.mem_iff_getElem.mp hm
    exact (hWhole i hi).seqNum a hMem
  have hInv : Inv (got.map (·.frame)) s :=
    hRun.invariant (boot_inv hSeq) fun _ _ _ h hGuard hStep => inv_step h hGuard hStep
  have hMax : 0 < reqQMax esp32c2 := by cases esp32c2 <;> decide
  have hGroups : requests [] (got.map (·.frame)) = (groups Tagged.more [] got).map request :=
    requests_groups [] got
  rw [← hGroups]
  exact ⟨⟨hInv.reassembled.1, hInv.reassembled.2, hInv.progress hMax⟩, whole_iff hWhole hLoss⟩

/-! ## A lost last fragment -/

/-- All frames arrive, apart from those at the given positions. -/
def arriving (lost : List Nat) (sent : List SentMsg) : List Tagged :=
  ((sent.flatMap (·.frames)).zipIdx.filter (·.2 ∉ lost)).map Prod.fst

theorem arriving_sublist (lost : List Nat) (sent : List SentMsg) :
    (arriving lost sent).Sublist (sent.flatMap (·.frames)) := by
  have hSub := (List.filter_sublist (p := fun p => decide (p.2 ∉ lost))
    (l := (sent.flatMap (·.frames)).zipIdx)).map Prod.fst
  rw [List.zipIdx_map_fst] at hSub
  exact hSub

/-- The frames of two messages in a row. -/
def twoMessages (lost : List Nat) (a b : List UInt8) : List Tagged :=
  arriving lost (hostSends .sdio 0 [a, b])

/-- A message of one frame that is lost does no harm to the one behind it. -/
theorem requests_iff_lostRequest : ∃ s,
    Reaches (step (reqQMax false)) Steady (boot ((twoMessages [0] [7] [9]).map (·.frame))) s ∧
      s.reassembled = [[9]] ∧
      Delivered (hostSends .sdio 0 [[7], [9]]) (twoMessages [0] [7] [9]) := by
  have hRun : ∃ s, runGuarded (step (reqQMax false)) Steady
      (boot ((twoMessages [0] [7] [9]).map (·.frame))) [.recvFrame, .acceptFrame] = some s ∧
      s.reassembled = [[9]] := ⟨_, rfl, rfl⟩
  obtain ⟨s, hRun, hOne⟩ := hRun
  refine ⟨s, .of_run hRun, hOne, ?_⟩
  refine (requests_iff .sdio false (arriving_sublist [0] _) (.of_run hRun)).2.mpr ?_
  intro i hi
  have hTwo : (hostSends .sdio 0 [[7], [9]]).length = 2 := rfl
  obtain rfl | rfl : i = 0 ∨ i = 1 := by omega
  · exact .inl rfl
  · exact .inr (.inl ⟨rfl, trivial⟩)

/-- The second frame of a message is lost; its first frame is handed over with the next message. -/
theorem requests_spliced :
    ¬ ∀ (t : Transport) (esp32c2 : Bool) (msgs : List (List UInt8)) (got : List Tagged) (s : State),
      got.Sublist ((hostSends t 0 msgs).flatMap (·.frames)) →
      Reaches (step (reqQMax esp32c2)) anyStep (boot (got.map (·.frame))) s →
      ∀ req ∈ s.reassembled, req ∈ msgs := by
  intro h
  have hRun : ((run (step (reqQMax false))
      (boot ((twoMessages [1] (List.replicate 1526 7) [9]).map (·.frame)))
      [.recvFrame, .acceptFrame, .recvFrame, .acceptFrame]).map fun s =>
        s.reassembled.map (·.length)) = some [1525] := by decide +kernel
  obtain ⟨s, hRun, hLengths⟩ := Option.map_eq_some_iff.mp hRun
  obtain ⟨req, hReq, hLength⟩ := List.map_eq_singleton_iff.mp hLengths
  have hMem := h .sdio false [List.replicate 1526 7, [9]] _ s (arriving_sublist [1] _)
    (.of_plain_run hRun) req (by rw [hReq]; exact List.mem_singleton_self req)
  rcases List.mem_cons.mp hMem with rfl | hMem
  · rw [List.length_replicate] at hLength
    cases hLength
  · rw [List.mem_singleton] at hMem
    subst hMem
    cases hLength

end EspHosted.Serial.LossToSlave
