import EspHosted.Lib.Decimal

/-!
# Ports that are reserved for the host

`init_allowed_ports` reads a list of ports from a configured text. It collects digits in
`port_buf` and ends a port at a comma and at the end of the text; every other character is
skipped. The index is held back at 4 after the fifth digit, and the terminator of the port is
then written over that digit.

* `stores_iff`: the ports of the text are stored exactly if none of them has five digits, and
  nothing is written outside `port_buf` and `ports_array` for any text.
-/

namespace EspHosted.NwSplit.AllowedPorts

open Decimal

/-! ## Model -/

/-- `port_type`, and any other text. -/
inductive PortType
  | tcpSrc
  | tcpDst
  | udpSrc
  | udpDst
  | other
  deriving DecidableEq

def PortType.known (t : PortType) : Bool := t ≠ .other

/-- What the caller hands over by address, and the four `initialized` flags. -/
structure State where
  portsCount : Nat
  portsArray : List Nat
  initialized : PortType → Bool

/-- `sizeof(port_buf)`. -/
def portBufSize : Nat := 6

/-- `port_buf`, its index, and the ports found so far. -/
structure Scan where
  portBuf : List UInt8
  portBufIdx : Nat
  portsCount : Nat
  portsArray : List Nat

/-- A write into an array. -/
def write {α : Type} (xs : List α) (i : Nat) (x : α) : Option (List α) :=
  if i < xs.length then some (xs.set i x) else none

/-- `atoi` of a text of digits. -/
def atoi (buf : List UInt8) : Nat := value (buf.takeWhile isDigit)

def comma : UInt8 := 44

/-- A digit goes to the buffer. -/
def putDigit (s : Scan) (c : UInt8) : Option Scan :=
  (write s.portBuf s.portBufIdx c).map fun portBuf =>
    let idx := s.portBufIdx + 1
    { s with
      portBuf := portBuf
      portBufIdx := if portBufSize - 1 ≤ idx then portBufSize - 2 else idx }

/-- The port in the buffer goes to the array. -/
def storePort (s : Scan) : Option Scan :=
  (write s.portBuf s.portBufIdx 0).bind fun portBuf =>
    (write s.portsArray s.portsCount (atoi portBuf % 2 ^ 16)).map fun portsArray =>
      { portBuf := portBuf, portBufIdx := 0, portsCount := s.portsCount + 1,
        portsArray := portsArray }

/-- The port that has digits in the buffer, at a comma and at the end. -/
def endPort (s : Scan) : Option Scan := if 0 < s.portBufIdx then storePort s else some s

def putChar (s : Scan) (c : UInt8) : Option Scan :=
  if isDigit c then putDigit s c else if c = comma then endPort s else some s

/-- The loop over `ports_str`. -/
def scanPorts (maxPorts : Nat) : List UInt8 → Scan → Option Scan
  | [], s => some s
  | c :: text, s =>
    if s.portsCount < maxPorts then (putChar s c).bind (scanPorts maxPorts text) else some s

/-- `portBuf` is what the buffer on the stack holds before. -/
def initAllowedPorts (maxPorts : Nat) (portBuf : List UInt8) (portsStr : Option (List UInt8))
    (t : PortType) (s : State) : Option State :=
  if t.known && s.initialized t then some s
  else
    let s := { s with portsCount := 0 }
    match portsStr with
    | none | some [] => some s
    | some text =>
      ((scanPorts maxPorts text
          { portBuf := portBuf, portBufIdx := 0, portsCount := 0,
            portsArray := s.portsArray }).bind endPort).map fun scan =>
        { portsCount := scan.portsCount
          portsArray := scan.portsArray
          initialized := if t.known then Function.update s.initialized t true
            else s.initialized }

/-! ## Texts -/

def space : UInt8 := 32

/-- A port with spaces around it. -/
structure Field where
  before : Nat
  port : Nat
  after : Nat

def spaces (n : Nat) : List UInt8 := List.replicate n space

def Field.text (f : Field) : List UInt8 := spaces f.before ++ digits f.port ++ spaces f.after

/-- What stands behind the last port: perhaps a comma, and spaces. -/
structure Ending where
  trailing : Bool
  after : Nat

def Ending.text (e : Ending) : List UInt8 := (if e.trailing then [comma] else []) ++ spaces e.after

/-- The fields with a comma between two of them. -/
def render (e : Ending) : List Field → List UInt8
  | [] => e.text
  | f :: fs => f.text ++ if fs.isEmpty then e.text else comma :: render e fs

/-- The first `max_ports` ports are in the array, and nothing else. -/
structure Stored (maxPorts : Nat) (ports : List Nat) (s : State) : Prop where
  count : s.portsCount = (ports.take maxPorts).length
  array : s.portsArray.take s.portsCount = ports.take maxPorts

/-! ## What the loop collects -/

/-- The digits since the last comma, and the ports before it. -/
structure Words where
  digits : List UInt8
  ports : List Nat

/-- Only the first four digits of a port are kept. -/
def Words.close (w : Words) : Words :=
  if w.digits = [] then w else ⟨[], w.ports ++ [value (w.digits.take 4)]⟩

def Words.put (w : Words) (c : UInt8) : Words :=
  if isDigit c then ⟨w.digits ++ [c], w.ports⟩ else if c = comma then w.close else w

def Words.scan (maxPorts : Nat) : List UInt8 → Words → Words
  | [], w => w
  | c :: text, w =>
    if w.ports.length < maxPorts then Words.scan maxPorts text (w.put c) else w

/-- The buffer holds the first four digits, the array the ports. -/
structure Holds (size : Nat) (w : Words) (s : Scan) : Prop where
  idx : s.portBufIdx = min 4 w.digits.length
  buf : s.portBuf.take s.portBufIdx = w.digits.take 4
  bufSize : s.portBuf.length = portBufSize
  isDigits : ∀ c ∈ w.digits, isDigit c = true
  count : s.portsCount = w.ports.length
  array : s.portsArray.take s.portsCount = w.ports
  arraySize : s.portsArray.length = size

variable {size maxPorts : Nat} {w : Words} {s : Scan} {c : UInt8}

theorem write_eq_some {α : Type} {xs : List α} {i : Nat} (x : α) (h : i < xs.length) :
    write xs i x = some (xs.set i x) := if_pos h

/-- What was written is behind what was there. -/
theorem take_set_succ {α : Type} {xs : List α} {i : Nat} (x : α) (h : i < xs.length) :
    (xs.set i x).take (i + 1) = xs.take i ++ [x] := by
  rw [List.take_succ_eq_append_getElem (by rw [List.length_set]; exact h),
    List.take_set_of_le le_rfl, List.getElem_set_self]

theorem putDigit_holds (h : Holds size w s) (hc : isDigit c = true) :
    ∃ s', putDigit s c = some s' ∧ Holds size ⟨w.digits ++ [c], w.ports⟩ s' := by
  have hIdx := h.idx
  have hSize : portBufSize = 6 := rfl
  have hLt : s.portBufIdx < s.portBuf.length := by
    rw [h.bufSize]
    omega
  have hDigits : ∀ d ∈ w.digits ++ [c], isDigit d = true := by
    intro d hd
    rcases List.mem_append.mp hd with hd | hd
    · exact h.isDigits d hd
    · rw [List.mem_singleton.mp hd]
      exact hc
  rw [putDigit, write_eq_some c hLt]
  refine ⟨_, rfl, ?_, ?_, ?_, hDigits, h.count, h.array, h.arraySize⟩
  · simp only [List.length_append, List.length_singleton]
    split <;> omega
  · have hBuf := h.buf
    simp only
    split
    · -- the fifth digit is behind what is kept
      have hFour : s.portBufIdx = 4 := by omega
      rw [hFour] at hBuf ⊢
      rw [show portBufSize - 2 = 4 from rfl, List.take_set_of_le (by omega), hBuf,
        List.take_append_of_le_length (by omega)]
    · have hShort : w.digits.length = s.portBufIdx := by omega
      rw [take_set_succ c hLt, hBuf, List.take_of_length_le (by omega),
        List.take_of_length_le (by rw [List.length_append, List.length_singleton]; omega)]
  · rw [List.length_set, h.bufSize]

/-- The terminator ends the text in the buffer. -/
theorem atoi_terminated (h : Holds size w s) :
    atoi (s.portBuf.set s.portBufIdx 0) = value (w.digits.take 4) := by
  have hIdx := h.idx
  have hSize : portBufSize = 6 := rfl
  have hBufSize := h.bufSize
  rw [atoi, List.set_eq_take_append_cons_drop, if_pos (by omega), h.buf,
    List.takeWhile_append_of_pos fun c hc => h.isDigits c (List.mem_of_mem_take hc),
    List.takeWhile_cons_of_neg (by decide), List.append_nil]

theorem endPort_holds (h : Holds size w s) (hRoom : w.digits ≠ [] → w.ports.length < size) :
    ∃ s', endPort s = some s' ∧ Holds size w.close s' := by
  have hIdx := h.idx
  have hSize : portBufSize = 6 := rfl
  have hBufSize := h.bufSize
  unfold endPort Words.close
  by_cases hNil : w.digits = []
  · rw [hNil, List.length_nil] at hIdx
    rw [if_neg (by omega), if_pos hNil]
    exact ⟨s, rfl, h⟩
  · have hPos := List.length_pos_iff.mpr hNil
    have hArray : s.portsCount < s.portsArray.length := by
      rw [h.count, h.arraySize]
      exact hRoom hNil
    have hSmall : value (w.digits.take 4) < 10 ^ (w.digits.take 4).length :=
      value_lt fun c hc => h.isDigits c (List.mem_of_mem_take hc)
    have hPow : 10 ^ (w.digits.take 4).length ≤ 10 ^ 4 :=
      Nat.pow_le_pow_right (by omega) (List.length_take_le _ _)
    rw [if_pos (by omega), if_neg hNil, storePort, write_eq_some _ (by omega), Option.bind_some,
      atoi_terminated h, write_eq_some _ hArray, Nat.mod_eq_of_lt (by omega)]
    refine ⟨_, rfl, rfl, rfl, ?_, nofun, ?_, ?_, ?_⟩
    · rw [List.length_set, hBufSize]
    · simp only [h.count, List.length_append, List.length_singleton]
    · rw [take_set_succ _ hArray, h.array]
    · rw [List.length_set, h.arraySize]

theorem putChar_holds (h : Holds size w s) (hRoom : w.ports.length < size) :
    ∃ s', putChar s c = some s' ∧ Holds size (w.put c) s' := by
  unfold putChar Words.put
  by_cases hDigit : isDigit c = true
  · rw [if_pos hDigit, if_pos hDigit]
    exact putDigit_holds h hDigit
  · rw [if_neg hDigit, if_neg hDigit]
    by_cases hComma : c = comma
    · rw [if_pos hComma, if_pos hComma]
      exact endPort_holds h fun _ => hRoom
    · rw [if_neg hComma, if_neg hComma]
      exact ⟨s, rfl, h⟩

/-- When the array is full, the buffer is empty. -/
def Words.Open (maxPorts : Nat) (w : Words) : Prop := w.digits ≠ [] → w.ports.length < maxPorts

theorem put_open (hLt : w.ports.length < maxPorts) : (w.put c).Open maxPorts := by
  unfold Words.put Words.close Words.Open
  split
  · exact fun _ => hLt
  · split
    · split
      · exact fun _ => hLt
      · exact fun h => absurd rfl h
    · exact fun _ => hLt

theorem scanPorts_holds (hMax : maxPorts ≤ size) (text : List UInt8) (h : Holds size w s)
    (hOpen : w.Open maxPorts) : ∃ s', scanPorts maxPorts text s = some s' ∧
      Holds size (w.scan maxPorts text) s' ∧ (w.scan maxPorts text).Open maxPorts := by
  induction text generalizing w s with
  | nil => exact ⟨s, rfl, h, hOpen⟩
  | cons c text ih =>
    unfold scanPorts Words.scan
    rw [h.count]
    split
    · rename_i hLt
      obtain ⟨s', hPut, hHolds⟩ := putChar_holds (c := c) h (by omega)
      rw [hPut, Option.bind_some]
      exact ih hHolds (put_open hLt)
    · exact ⟨s, rfl, h, hOpen⟩

/-! ## Rendered lists -/

/-- What is stored for a port. -/
def kept (p : Nat) : Nat := if p < 10000 then p else p / 10

theorem value_take_digits {p : Nat} (hp : p < 2 ^ 16) : value ((digits p).take 4) = kept p := by
  unfold kept
  split
  · rename_i hLt
    rw [List.take_of_length_le (digits_length_le.mpr hLt), value_digits]
  · rename_i hGe
    have hLe := (digits_length_le (k := 4) (n := p / 10)).mpr (by omega)
    have hNot := (digits_length_le (k := 3) (n := p / 10)).not.mpr (by omega)
    rw [digits_div (by omega), List.take_append_of_le_length (by omega),
      List.take_of_length_le hLe, value_digits]

theorem digits_ne_nil {p : Nat} (hp : 0 < p) : digits p ≠ [] := by
  rw [digits_div hp]
  exact List.append_ne_nil_of_right_ne_nil _ (List.cons_ne_nil _ _)

section Texts

variable (hLt : w.ports.length < maxPorts)
include hLt

theorem scan_spaces (n : Nat) (rest : List UInt8) :
    w.scan maxPorts (spaces n ++ rest) = w.scan maxPorts rest := by
  induction n with
  | zero => rfl
  | succ n ih =>
    rw [spaces, List.replicate_succ, List.cons_append, Words.scan, if_pos hLt]
    exact ih

theorem scan_digits {ds : List UInt8} (hDigits : ∀ c ∈ ds, isDigit c = true) (rest : List UInt8) :
    w.scan maxPorts (ds ++ rest) = Words.scan maxPorts rest ⟨w.digits ++ ds, w.ports⟩ := by
  induction ds generalizing w with
  | nil => rw [List.append_nil, List.nil_append]
  | cons d ds ih =>
    rw [List.cons_append, Words.scan, if_pos hLt, Words.put,
      if_pos (hDigits d List.mem_cons_self),
      ih (by exact hLt) fun c hc => hDigits c (List.mem_cons_of_mem _ hc)]
    simp only [List.append_assoc, List.singleton_append]

theorem scan_comma (rest : List UInt8) :
    w.scan maxPorts (comma :: rest) = w.close.scan maxPorts rest := by
  rw [Words.scan, if_pos hLt]
  rfl

end Texts

variable {ports : List Nat} {f : Field}

theorem scan_field (hLt : ports.length < maxPorts) (f : Field) (rest : List UInt8) :
    Words.scan maxPorts (f.text ++ rest) ⟨[], ports⟩ =
      Words.scan maxPorts rest ⟨digits f.port, ports⟩ := by
  rw [Field.text, List.append_assoc, List.append_assoc, scan_spaces (by exact hLt),
    scan_digits (by exact hLt) fun c hc => isDigit_of_mem hc, scan_spaces (by exact hLt)]
  rfl

theorem close_field (hPort : 0 < f.port ∧ f.port < 2 ^ 16) :
    Words.close ⟨digits f.port, ports⟩ = ⟨[], ports ++ [kept f.port]⟩ := by
  rw [Words.close, if_neg (digits_ne_nil hPort.1), value_take_digits hPort.2]

theorem close_close (w : Words) : w.close.close = w.close := by
  unfold Words.close
  split <;> simp_all

theorem scan_full (text : List UInt8) (hFull : ¬ w.ports.length < maxPorts) :
    w.scan maxPorts text = w := by
  cases text with
  | nil => rfl
  | cons c text => rw [Words.scan, if_neg hFull]

theorem scan_spaces_only (n : Nat) (w : Words) : w.scan maxPorts (spaces n) = w := by
  by_cases hLt : w.ports.length < maxPorts
  · have hScan := scan_spaces hLt n []
    rw [List.append_nil] at hScan
    rw [hScan, Words.scan]
  · exact scan_full _ hLt

/-- A comma and spaces behind the last port close it, as the end of the text does. -/
theorem close_scan_ending (e : Ending) (hLt : w.ports.length < maxPorts) :
    (w.scan maxPorts e.text).close = w.close := by
  unfold Ending.text
  cases e.trailing with
  | false => rw [if_neg Bool.false_ne_true, List.nil_append, scan_spaces_only]
  | true =>
    rw [if_pos rfl, List.singleton_append, scan_comma hLt, scan_spaces_only, close_close]

theorem close_scan_render (e : Ending) {fs : List Field}
    (hPorts : ∀ f ∈ fs, 0 < f.port ∧ f.port < 2 ^ 16) (hLe : ports.length ≤ maxPorts) :
    ((Words.scan maxPorts (render e fs) ⟨[], ports⟩).close) =
      ⟨[], (ports ++ fs.map fun f => kept f.port).take maxPorts⟩ := by
  induction fs generalizing ports with
  | nil =>
    rw [List.map_nil, List.append_nil, List.take_of_length_le hLe, render]
    by_cases hLt : ports.length < maxPorts
    · exact close_scan_ending e hLt
    · rw [scan_full _ hLt]
      rfl
  | cons f fs ih =>
    by_cases hLt : ports.length < maxPorts
    · have hPort := hPorts f List.mem_cons_self
      have hSnoc : (ports ++ [kept f.port]).length ≤ maxPorts := by
        rw [List.length_append, List.length_singleton]
        exact hLt
      rw [render, scan_field hLt]
      cases fs with
      | nil =>
        rw [List.isEmpty_nil, if_pos rfl, close_scan_ending e (by exact hLt), close_field hPort,
          List.map_singleton, List.take_of_length_le hSnoc]
      | cons g fs =>
        rw [List.isEmpty_cons, if_neg Bool.false_ne_true, scan_comma (by exact hLt),
          close_field hPort, ih (fun g hg => hPorts g (List.mem_cons_of_mem _ hg)) hSnoc,
          List.append_assoc, List.map_cons, List.map_cons, List.map_cons, List.singleton_append]
    · rw [scan_full _ hLt]
      have hFull : ports.length = maxPorts := by omega
      rw [← hFull, List.take_left]
      rfl

/-! ## The function -/

variable {portBuf : List UInt8} {t : PortType} {st : State}

/-- What a text leaves in the array. -/
theorem initAllowedPorts_spec (text : List UInt8) (hBuf : portBuf.length = portBufSize)
    (hRoom : maxPorts ≤ st.portsArray.length) (hFirst : (t.known && st.initialized t) = false) :
    ∃ s', initAllowedPorts maxPorts portBuf (some text) t st = some s' ∧
      s'.portsArray.take s'.portsCount =
        (Words.scan maxPorts text ⟨[], []⟩).close.ports ∧
      s'.portsCount = (Words.scan maxPorts text ⟨[], []⟩).close.ports.length := by
  have hStart : Holds st.portsArray.length ⟨[], []⟩
      { portBuf := portBuf, portBufIdx := 0, portsCount := 0, portsArray := st.portsArray } :=
    ⟨rfl, rfl, hBuf, nofun, rfl, rfl, rfl⟩
  obtain ⟨s₁, hScan, hHolds, hOpen⟩ := scanPorts_holds hRoom text hStart fun h => absurd rfl h
  obtain ⟨s₂, hEnd, hClosed⟩ := endPort_holds hHolds fun h => (hOpen h).trans_le hRoom
  unfold initAllowedPorts
  rw [if_neg (by rw [hFirst]; exact Bool.false_ne_true)]
  cases text with
  | nil => exact ⟨_, rfl, rfl, rfl⟩
  | cons c text =>
    simp only [hScan, Option.bind_some, hEnd, Option.map_some]
    exact ⟨_, rfl, hClosed.array, hClosed.count⟩

/-- No text makes the function write outside the two arrays. -/
theorem initAllowedPorts_isSome (hBuf : portBuf.length = portBufSize)
    (hRoom : maxPorts ≤ st.portsArray.length) (portsStr : Option (List UInt8)) :
    (initAllowedPorts maxPorts portBuf portsStr t st).isSome := by
  cases hFirst : t.known && st.initialized t with
  | true => simp [initAllowedPorts, hFirst]
  | false =>
    cases portsStr with
    | none => simp [initAllowedPorts, hFirst]
    | some text =>
      obtain ⟨s', hInit, -⟩ := initAllowedPorts_spec text hBuf hRoom hFirst
      rw [hInit]
      rfl

theorem kept_eq_iff {p : Nat} : kept p = p ↔ p < 10000 := by
  unfold kept
  split <;> omega

theorem map_kept_eq_iff {ps : List Nat} : ps.map kept = ps ↔ ∀ p ∈ ps, p < 10000 := by
  calc ps.map kept = ps ↔ ps.map kept = ps.map id := by rw [List.map_id]
    _ ↔ ∀ p ∈ ps, kept p = p := List.map_inj_left
    _ ↔ ∀ p ∈ ps, p < 10000 := forall₂_congr fun p _ => kept_eq_iff

/-- The flag of a port type is set when its ports were read before. Then the array is left
alone. -/
theorem stores_iff (hBuf : portBuf.length = portBufSize) (hRoom : maxPorts ≤ st.portsArray.length)
    (e : Ending) {fs : List Field} (hPorts : ∀ f ∈ fs, 1 ≤ f.port ∧ f.port ≤ 65535) :
    (∀ portsStr, (initAllowedPorts maxPorts portBuf portsStr t st).isSome) ∧
    ((∃ s', initAllowedPorts maxPorts portBuf (some (render e fs)) t st = some s' ∧
        Stored maxPorts (fs.map Field.port) s') ↔
      if t.known && st.initialized t then Stored maxPorts (fs.map Field.port) st
      else ∀ p ∈ (fs.map Field.port).take maxPorts, p < 10000) := by
  refine ⟨initAllowedPorts_isSome hBuf hRoom, ?_⟩
  cases hFirst : t.known && st.initialized t with
  | true =>
    simp only [initAllowedPorts, hFirst, if_true, Option.some.injEq, exists_eq_left']
  | false =>
    have hRange : ∀ f ∈ fs, 0 < f.port ∧ f.port < 2 ^ 16 := by
      intro f hf
      have hPort := hPorts f hf
      omega
    obtain ⟨s', hInit, hArray, hCount⟩ :=
      initAllowedPorts_spec (render e fs) hBuf hRoom hFirst
    rw [close_scan_render e hRange (Nat.zero_le _), List.nil_append] at hArray hCount
    have hKept : (fs.map fun f => kept f.port).take maxPorts =
        ((fs.map Field.port).take maxPorts).map kept := by
      rw [← List.map_take, ← List.map_take, List.map_map]
      rfl
    simp only [hKept, List.length_map] at hArray hCount
    rw [if_neg Bool.false_ne_true, ← map_kept_eq_iff]
    constructor
    · rintro ⟨u, hEq, hStored⟩
      rw [hInit, Option.some.injEq] at hEq
      rw [← hArray, hEq, hStored.array]
    · intro hSame
      exact ⟨s', hInit, hCount, hArray.trans hSame⟩

/-- Before anything was read. -/
def fresh : State :=
  { portsCount := 0, portsArray := List.replicate 10 0, initialized := fun _ => false }

/-- `"80, 1883 ,"`. -/
theorem stores_two : ∃ s', initAllowedPorts 10 (List.replicate 6 0)
    (some (render ⟨true, 0⟩ [⟨0, 80, 0⟩, ⟨1, 1883, 1⟩])) .tcpDst fresh = some s' ∧
      Stored 10 [80, 1883] s' := by
  have hPorts : ∀ f ∈ [(⟨0, 80, 0⟩ : Field), ⟨1, 1883, 1⟩], 1 ≤ f.port ∧ f.port ≤ 65535 := by
    decide
  refine (stores_iff rfl le_rfl ⟨true, 0⟩ hPorts).2.mpr ?_
  rw [if_neg (by decide)]
  decide

/-- `"54321"` is stored as 5432. -/
theorem five_digits_lost : ∃ s', initAllowedPorts 10 (List.replicate 6 0)
    (some (render ⟨false, 0⟩ [⟨0, 54321, 0⟩])) .tcpDst fresh = some s' ∧
      s'.portsArray.take s'.portsCount = [5432] ∧ ¬ Stored 10 [54321] s' := by
  have hRoom : 10 ≤ fresh.portsArray.length := le_rfl
  have hFirst : (PortType.tcpDst.known && fresh.initialized .tcpDst) = false := rfl
  have hBuf : (List.replicate 6 0 : List UInt8).length = portBufSize := rfl
  obtain ⟨s', hInit, hArray, -⟩ :=
    initAllowedPorts_spec (render ⟨false, 0⟩ [⟨0, 54321, 0⟩]) hBuf hRoom hFirst
  rw [close_scan_render _ (by decide) (Nat.zero_le _)] at hArray
  refine ⟨s', hInit, hArray, fun h => ?_⟩
  have hStored := h.array
  rw [hArray] at hStored
  exact absurd hStored (by decide)

end EspHosted.NwSplit.AllowedPorts
