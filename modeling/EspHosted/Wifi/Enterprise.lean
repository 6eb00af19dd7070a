import EspHosted.Lib.Holders
import EspHosted.Lib.Machine

/-!
# The credentials of WPA-Enterprise

The co-processor keeps a CA certificate, a client certificate, a private key and its password, each
in a buffer of its own with a length. The EAP client is given the buffers and keeps the pointers. A
request that sets them frees the old buffers first, and copies as many bytes as a length field
says, which need not be the length of the bytes that arrived.

* `set_ca_cert_iff`, `set_certificate_and_key_iff`: when a set leaves the credentials sound;
* `wiped_and_freed`: in every run a buffer is held, or was wiped in full and freed once;
* `credential_lifetime`: along runs whose requests satisfy `Keeps` the credentials are sound, and
  the next request leaves them so exactly if it satisfies `Keeps` too.
-/

namespace EspHosted.Wifi.Enterprise

open Machine Holders

/-! ## Model -/

inductive Credential
  | caCert
  | clientCert
  | privateKey
  | privateKeyPassword
  deriving DecidableEq

/-- What the EAP client copies. -/
inductive Text
  | identity
  | username
  | password
  deriving DecidableEq

/-- A bytes field of a request, `NULL` or the bytes that arrived, and its separate length. -/
structure Field where
  data : Option (List UInt8)
  len : Int

/-- An `int` as a `size_t`. -/
def sizeT (n : Int) : Nat := (n % 4294967296).toNat

def Field.available (f : Field) : Nat := (f.data.getD []).length

/-- Bytes of a request that were read for one purpose. -/
structure Read where
  purpose : Text ⊕ Credential
  len : Nat
  available : Nat
  deriving DecidableEq

structure State where
  /-- `g_ca_cert` and the other pointers. -/
  heap : Heap Credential
  /-- `g_ca_cert_len` and the other lengths. -/
  len : Credential → Int
  /-- The pointers that the EAP client keeps. -/
  client : Credential → Option Nat
  reads : List Read

def boot : State := ⟨empty, fun _ => 0, fun _ => none, []⟩

/-- What is not said of the EAP client: whether a `NULL` replaces a pointer, and whether the end of
enterprise mode clears the pointers. -/
structure EapClient where
  nullReplaces : Bool
  disableClears : Bool

/-- What a handler gives back. -/
inductive Reply
  | failed
  | noMem
  | resp (code : Int)
  deriving DecidableEq

/-- `CLEAR_CERT` -/
def clearCert (c : Credential) (s : State) : State :=
  { s with heap := release c (sizeT (s.len c)) s.heap, len := Function.update s.len c 0 }

def freeGCaCert (s : State) : State := clearCert .caCert s

def freeAllGEapCertAndKey (s : State) : State :=
  clearCert .privateKeyPassword (clearCert .privateKey (clearCert .clientCert s))

/-- The length is stored, the buffer allocated and the bytes are copied. -/
def storeCert (c : Credential) (f : Field) (granted : Bool) (s : State) : Except State State :=
  let s := { s with len := Function.update s.len c f.len }
  if f.len = 0 then .ok s
  else if granted then
    .ok { s with
      heap := alloc c (sizeT f.len) s.heap
      reads := ⟨.inr c, sizeT f.len, f.available⟩ :: s.reads }
  else .error s

/-- The EAP client takes the pointers of some credentials. -/
def EapClient.take (eap : EapClient) (cs : List Credential) (s : State) : State :=
  { s with client := fun c =>
      if c ∈ cs then
        if s.heap.cell c = none ∧ eap.nullReplaces = false then s.client c else s.heap.cell c
      else s.client c }

def clearClient (cs : List Credential) (s : State) : State :=
  { s with client := fun c => if c ∈ cs then none else s.client c }

def certAndKey : List Credential := [.privateKeyPassword, .privateKey, .clientCert]

/-- The check of a field that must be there. -/
def Field.Missing (f : Field) : Prop := f.data = none ∨ f.len ≤ 0

/-- The check of a field that may be left out. -/
def Field.Mismatched (f : Field) : Prop :=
  (f.data ≠ none ∧ f.len ≤ 0) ∨ (0 < f.len ∧ f.data = none)

instance (f : Field) : Decidable f.Missing := inferInstanceAs (Decidable (_ ∨ _))

instance (f : Field) : Decidable f.Mismatched := inferInstanceAs (Decidable (_ ∨ _))

/-- The EAP client copies the text if it takes it. -/
def setText (t : Text) (f : Field) (ret : Int) (s : State) : Reply × State :=
  if f.Missing then (.resp 1, s)
  else if ret = 0 then (.resp 0, { s with reads := ⟨.inl t, f.len.toNat, f.available⟩ :: s.reads })
  else (.resp ret, s)

def reqEapSetIdentity : Field → Int → State → Reply × State := setText .identity
def reqEapSetUsername : Field → Int → State → Reply × State := setText .username
def reqEapSetPassword : Field → Int → State → Reply × State := setText .password

/-- This calls `esp_eap_client_set_password` too. -/
def reqEapSetNewPassword : Field → Int → State → Reply × State := setText .password

def reqEapSetCaCert (eap : EapClient) (f : Field) (granted : Bool) (ret : Int) (s : State) :
    Reply × State :=
  if f.Missing then (.resp 1, s)
  else
    match storeCert .caCert f granted (freeGCaCert s) with
    | .error s => (.noMem, s)
    | .ok s => (.resp ret, if ret = 0 then eap.take [.caCert] s else s)

def reqEapClearCaCert (s : State) : Reply × State :=
  (.resp 0, clearClient [.caCert] (freeGCaCert s))

/-- Three fields, and whether there is memory for each. -/
structure CertAndKey where
  clientCert : Field
  privateKey : Field
  privateKeyPassword : Field
  clientCertGranted : Bool
  privateKeyGranted : Bool
  privateKeyPasswordGranted : Bool

/-- The private key and its password, behind the client certificate. -/
def storeKeyAndPassword (eap : EapClient) (r : CertAndKey) (ret : Int) (s : State) :
    Reply × State :=
  match storeCert .privateKey r.privateKey r.privateKeyGranted s >>=
      storeCert .privateKeyPassword r.privateKeyPassword r.privateKeyPasswordGranted with
  | .error s => (.noMem, freeAllGEapCertAndKey s)
  | .ok s => (.resp ret, if ret = 0 then eap.take certAndKey s else s)

/-- What follows the checks. The exit for the client certificate does not free anything. -/
def replaceCertAndKey (eap : EapClient) (r : CertAndKey) (ret : Int) (s : State) :
    Reply × State :=
  match storeCert .clientCert r.clientCert r.clientCertGranted (freeAllGEapCertAndKey s) with
  | .error s => (.noMem, s)
  | .ok s => storeKeyAndPassword eap r ret s

def reqEapSetCertificateAndKey (eap : EapClient) (r : CertAndKey) (ret : Int) (s : State) :
    Reply × State :=
  if r.clientCert.Mismatched then (.resp 1, s)
  else if r.privateKey.Mismatched then (.resp 1, s)
  else if r.privateKeyPassword.Mismatched then (.resp 1, s)
  else replaceCertAndKey eap r ret s

def reqEapClearCertificateAndKey (s : State) : Reply × State :=
  (.resp 0, clearClient certAndKey (freeAllGEapCertAndKey s))

def allCerts : List Credential := certAndKey ++ [.caCert]

def reqWifiStaEnterpriseDisable (eap : EapClient) (ret : Int) (s : State) : Reply × State :=
  let s := freeAllGEapCertAndKey (freeGCaCert s)
  (.resp ret, if ret = 0 ∧ eap.disableClears = true then clearClient allCerts s else s)

/-- `ret` is what the function of the driver returns. Clearing a text touches nothing here. -/
inductive Request
  | setIdentity (f : Field) (ret : Int)
  | setUsername (f : Field) (ret : Int)
  | setPassword (f : Field) (ret : Int)
  | setNewPassword (f : Field) (ret : Int)
  | clearText
  | setCaCert (f : Field) (granted : Bool) (ret : Int)
  | clearCaCert
  | setCertificateAndKey (r : CertAndKey) (ret : Int)
  | clearCertificateAndKey
  | enterpriseDisable (ret : Int)

def Request.handle (eap : EapClient) (s : State) : Request → Reply × State
  | .setIdentity f ret => reqEapSetIdentity f ret s
  | .setUsername f ret => reqEapSetUsername f ret s
  | .setPassword f ret => reqEapSetPassword f ret s
  | .setNewPassword f ret => reqEapSetNewPassword f ret s
  | .clearText => (.resp 0, s)
  | .setCaCert f granted ret => reqEapSetCaCert eap f granted ret s
  | .clearCaCert => reqEapClearCaCert s
  | .setCertificateAndKey r ret => reqEapSetCertificateAndKey eap r ret s
  | .clearCertificateAndKey => reqEapClearCertificateAndKey s
  | .enterpriseDisable ret => reqWifiStaEnterpriseDisable eap ret s

/-- A request, and what the templates at the start of each handler come to: `some` of the failure
that they return. -/
structure Action where
  template : Option Reply
  request : Request

def Action.handle (eap : EapClient) (s : State) (a : Action) : Reply × State :=
  match a.template with
  | some reply => (reply, s)
  | none => a.request.handle eap s

def step (eap : EapClient) (s : State) (a : Action) : Option State := some (a.handle eap s).2

/-! ## The contract -/

structure Sound (s : State) : Prop where
  client : ∀ c p, s.client c = some p → Live s.heap p
  null : ∀ c, s.heap.cell c = none ↔ s.len c = 0
  once : ∀ p b, s.heap.blocks[p]? = some b →
    (b.frees = 0 ∧ ∃ c, s.heap.cell c = some p) ∨ (b.frees = 1 ∧ b.wiped = b.size)
  reads : ∀ r ∈ s.reads, r.len ≤ r.available

/-- The bytes arrived in full, and there is memory for them. -/
def Field.Copied (f : Field) (granted : Bool) : Prop :=
  f.len = 0 ∨ (granted = true ∧ sizeT f.len ≤ f.available)

def Field.NoMemory (f : Field) (granted : Bool) : Prop := f.len ≠ 0 ∧ granted = false

/-- The EAP client keeps no pointer to some credentials. -/
def Idle (s : State) (cs : List Credential) : Prop := ∀ c ∈ cs, s.client c = none

/-- The EAP client takes the new pointers, and keeps no old one in place of a `NULL`. -/
def Renews (eap : EapClient) (s : State) (cs : List Credential) (len : Credential → Int)
    (ret : Int) : Prop :=
  if ret = 0 then ∀ c ∈ cs, s.client c = none ∨ len c ≠ 0 ∨ eap.nullReplaces = true
  else Idle s cs

def CertAndKey.len (r : CertAndKey) : Credential → Int
  | .caCert => 0
  | .clientCert => r.clientCert.len
  | .privateKey => r.privateKey.len
  | .privateKeyPassword => r.privateKeyPassword.len

def CertAndKey.Mismatched (r : CertAndKey) : Prop :=
  r.clientCert.Mismatched ∨ r.privateKey.Mismatched ∨ r.privateKeyPassword.Mismatched

/-- The client certificate is copied. Then the key and the password are copied too and taken, or
there is no memory for one of them and the EAP client keeps no pointer to the old ones. -/
def CertAndKey.Keeps (r : CertAndKey) (eap : EapClient) (s : State) (ret : Int) : Prop :=
  r.clientCert.Copied r.clientCertGranted ∧
    ((r.privateKey.NoMemory r.privateKeyGranted ∧ Idle s certAndKey) ∨
      (r.privateKey.Copied r.privateKeyGranted ∧
        ((r.privateKeyPassword.NoMemory r.privateKeyPasswordGranted ∧ Idle s certAndKey) ∨
          (r.privateKeyPassword.Copied r.privateKeyPasswordGranted ∧
            Renews eap s certAndKey r.len ret))))

def Request.Keeps (eap : EapClient) (s : State) : Request → Prop
  | .setIdentity f ret | .setUsername f ret | .setPassword f ret | .setNewPassword f ret =>
    f.Missing ∨ ret ≠ 0 ∨ f.len.toNat ≤ f.available
  | .clearText | .clearCaCert | .clearCertificateAndKey => True
  | .setCaCert f granted ret => f.Missing ∨ (f.Copied granted ∧ (ret = 0 ∨ Idle s [.caCert]))
  | .setCertificateAndKey r ret => r.Mismatched ∨ r.Keeps eap s ret
  | .enterpriseDisable ret => (ret = 0 ∧ eap.disableClears = true) ∨ Idle s allCerts

def Keeps (eap : EapClient) (s : State) (a : Action) : Prop :=
  a.template = none → a.request.Keeps eap s

/-! ## Invariants -/

/-- What holds in the middle of a request too. -/
structure Base (s : State) : Prop where
  tidy : Tidy s.heap
  sized : ∀ c p b, s.heap.cell c = some p → s.heap.blocks[p]? = some b → b.size = sizeT (s.len c)

/-- The EAP client keeps the pointers of the credentials that are stored. -/
structure Inv (s : State) : Prop where
  base : Base s
  held : ∀ c p, s.client c = some p → s.heap.cell c = some p
  null : ∀ c, s.heap.cell c = none ↔ s.len c = 0
  reads : ∀ r ∈ s.reads, r.len ≤ r.available

/-- The state `s` of a request that began in `s₀` and has freed the credentials `cs`. -/
structure Open (s₀ : State) (cs : List Credential) (s : State) : Prop where
  base : Base s
  client : s.client = s₀.client
  freed : ∀ c ∈ cs, ∀ p, s₀.heap.cell c = some p → Freed s.heap p
  cell : ∀ c, c ∉ cs → s.heap.cell c = s₀.heap.cell c
  len : ∀ c, c ∉ cs → s.len c = s₀.len c
  reads : ∀ r ∈ s.reads, r.len ≤ r.available

/-- `P` decides whether a request ends in order. -/
structure Decides (P : Prop) (t : State) : Prop where
  inv : P → Inv t
  cond : Sound t → P

variable {s s₀ s' : State} {c : Credential} {cs : List Credential} {f : Field} {granted : Bool}
  {eap : EapClient} {ret : Int}

theorem boot_inv : Inv boot where
  base := ⟨empty_tidy, fun _ _ _ h => by cases h⟩
  held := fun _ _ h => by cases h
  null := fun _ => iff_of_true rfl rfl
  reads := fun _ h => by cases h

theorem Inv.sound (h : Inv s) : Sound s where
  client := fun c p hp => h.base.tidy.live c p (h.held c p hp)
  null := h.null
  once := h.base.tidy.once
  reads := h.reads

theorem Decides.of_inv {P : Prop} (hP : P) (h : Inv s) : Decides P s := ⟨fun _ => h, fun _ => hP⟩

theorem Decides.of_not {P : Prop} (hP : ¬ P) (h : ¬ Sound s) : Decides P s :=
  ⟨fun h' => absurd h' hP, fun h' => absurd h' h⟩

theorem Decides.congr {P Q : Prop} (h : Decides P s) (hPQ : P ↔ Q) : Decides Q s :=
  ⟨fun hQ => h.inv (hPQ.mpr hQ), fun hSound => hPQ.mp (h.cond hSound)⟩

/-! ## Freeing and storing -/

@[simp] theorem clearCert_cell_self : (clearCert c s).heap.cell c = none := release_cell_self

@[simp] theorem clearCert_len_self : (clearCert c s).len c = 0 := Function.update_self c _ _

theorem clearCert_cell_of_ne {c' : Credential} (hNe : c' ≠ c) :
    (clearCert c s).heap.cell c' = s.heap.cell c' := release_cell_of_ne hNe

theorem clearCert_len_of_ne {c' : Credential} (hNe : c' ≠ c) :
    (clearCert c s).len c' = s.len c' := Function.update_of_ne hNe _ _

theorem Base.clear (h : Base s) (c : Credential) : Base (clearCert c s) := by
  refine ⟨h.tidy.release fun p b => h.sized c p b, fun c' p b hCell hb => ?_⟩
  have hNe : c' ≠ c := by
    rintro rfl
    rw [clearCert_cell_self] at hCell
    cases hCell
  rw [clearCert_cell_of_ne hNe] at hCell
  have hOther : s.heap.cell c ≠ some p := fun hSame => hNe (h.tidy.inj c' c p hCell hSame)
  rw [clearCert_len_of_ne hNe]
  exact h.sized c' p b hCell ((release_block_of_ne hOther).symm.trans hb)

/-- A length alone changes nothing as long as there is no buffer. -/
theorem Base.setLen (h : Base s) (hNone : s.heap.cell c = none) (n : Int) :
    Base { s with len := Function.update s.len c n } := by
  refine ⟨h.tidy, fun c' p b hCell hb => ?_⟩
  have hNe : c' ≠ c := by
    rintro rfl
    cases hNone.symm.trans hCell
  show b.size = sizeT (Function.update s.len c n c')
  rw [Function.update_of_ne hNe]
  exact h.sized c' p b hCell hb

/-- A new buffer has the length that is stored with it. -/
theorem Base.alloc (h : Base s) (hNone : s.heap.cell c = none) (n : Int) (reads : List Read) :
    Base { s with
      heap := alloc c (sizeT n) s.heap
      len := Function.update s.len c n
      reads := reads } := by
  refine ⟨h.tidy.alloc hNone, fun c' p b hCell hb => ?_⟩
  show b.size = sizeT (Function.update s.len c n c')
  by_cases hEq : c' = c
  · rw [hEq] at hCell ⊢
    rw [Function.update_self]
    cases (alloc_cell_self (h := s.heap) (c := c)).symm.trans hCell
    cases alloc_block_new.symm.trans hb
    rfl
  · rw [Function.update_of_ne hEq]
    have hOld := (alloc_cell_of_ne hEq).symm.trans hCell
    obtain ⟨b', hb', -⟩ := h.tidy.live c' p hOld
    cases (alloc_block_of_some hb').symm.trans hb
    exact h.sized c' p b hOld hb'

theorem Open.start (h : Inv s) : Open s [] s where
  base := h.base
  client := rfl
  freed := fun c hc => by cases hc
  cell := fun _ _ => rfl
  len := fun _ _ => rfl
  reads := h.reads

theorem Open.congr {cs' : List Credential} (h : Open s₀ cs s) (hSame : ∀ c, c ∈ cs ↔ c ∈ cs') :
    Open s₀ cs' s where
  base := h.base
  client := h.client
  freed := fun c hc => h.freed c ((hSame c).mpr hc)
  cell := fun c hc => h.cell c fun hMem => hc ((hSame c).mp hMem)
  len := fun c hc => h.len c fun hMem => hc ((hSame c).mp hMem)
  reads := h.reads

theorem Open.clear (h : Open s₀ cs s) (c : Credential) : Open s₀ (c :: cs) (clearCert c s) where
  base := h.base.clear c
  client := h.client
  freed := by
    intro c' hc' p hp
    by_cases hMem : c' ∈ cs
    · exact (h.freed c' hMem p hp).release
    · rcases List.mem_cons.mp hc' with rfl | hTail
      · exact h.base.tidy.freed_release ((h.cell c' hMem).trans hp)
      · exact absurd hTail hMem
  cell := by
    intro c' hc'
    rw [List.mem_cons, not_or] at hc'
    rw [clearCert_cell_of_ne hc'.1, h.cell c' hc'.2]
  len := by
    intro c' hc'
    rw [List.mem_cons, not_or] at hc'
    rw [clearCert_len_of_ne hc'.1, h.len c' hc'.2]
  reads := h.reads

theorem Open.freeAll (h : Open s₀ cs s) : Open s₀ (certAndKey ++ cs) (freeAllGEapCertAndKey s) :=
  ((h.clear .clientCert).clear .privateKey).clear .privateKeyPassword

theorem Open.setLen (h : Open s₀ cs s) (hc : c ∈ cs) (hNone : s.heap.cell c = none) (n : Int) :
    Open s₀ cs { s with len := Function.update s.len c n } where
  base := h.base.setLen hNone n
  client := h.client
  freed := h.freed
  cell := h.cell
  len := by
    intro c' hc'
    have hNe : c' ≠ c := by
      rintro rfl
      exact hc' hc
    show Function.update s.len c n c' = _
    rw [Function.update_of_ne hNe]
    exact h.len c' hc'
  reads := h.reads

theorem storeCert_zero (hLen : f.len = 0) : storeCert c f granted s =
    .ok { s with len := Function.update s.len c 0 } := by
  simp only [storeCert, hLen, if_true]

theorem storeCert_granted (hLen : f.len ≠ 0) : storeCert c f true s =
    .ok { s with
      heap := alloc c (sizeT f.len) s.heap
      len := Function.update s.len c f.len
      reads := ⟨.inr c, sizeT f.len, f.available⟩ :: s.reads } := by
  simp only [storeCert, hLen, if_false, if_true]

theorem storeCert_noMemory (h : f.NoMemory granted) : storeCert c f granted s =
    .error { s with len := Function.update s.len c f.len } := by
  simp only [storeCert, h.1, h.2, if_false, Bool.false_eq_true]

theorem Open.alloc (h : Open s₀ cs s) (hc : c ∈ cs) (hNone : s.heap.cell c = none)
    (hFits : sizeT f.len ≤ f.available) : Open s₀ cs { s with
      heap := alloc c (sizeT f.len) s.heap
      len := Function.update s.len c f.len
      reads := ⟨.inr c, sizeT f.len, f.available⟩ :: s.reads } where
  base := h.base.alloc hNone f.len _
  client := h.client
  freed := fun c' hc' p hp => (h.freed c' hc' p hp).alloc
  cell := by
    intro c' hc'
    have hNe : c' ≠ c := by
      rintro rfl
      exact hc' hc
    exact (alloc_cell_of_ne hNe).trans (h.cell c' hc')
  len := (h.setLen hc hNone f.len).len
  reads := by
    intro r hr
    rcases List.mem_cons.mp hr with rfl | hOld
    · exact hFits
    · exact h.reads r hOld

/-- What a copy that succeeds leaves. -/
structure Stored (c : Credential) (f : Field) (s s' : State) : Prop where
  cell : s'.heap.cell c = none ↔ f.len = 0
  len : s'.len c = f.len
  others : ∀ c', c' ≠ c → s'.heap.cell c' = s.heap.cell c' ∧ s'.len c' = s.len c'

theorem storeCert_copied (h : Open s₀ cs s) (hc : c ∈ cs) (hNone : s.heap.cell c = none)
    (hCopied : f.Copied granted) :
    ∃ s', storeCert c f granted s = .ok s' ∧ Open s₀ cs s' ∧ Stored c f s s' := by
  by_cases hLen : f.len = 0
  · refine ⟨_, storeCert_zero hLen, h.setLen hc hNone 0, iff_of_true hNone hLen, ?_, ?_⟩
    · rw [hLen]
      exact Function.update_self c _ _
    · exact fun c' hNe => ⟨rfl, Function.update_of_ne hNe _ _⟩
  · obtain ⟨rfl, hFits⟩ := hCopied.resolve_left hLen
    refine ⟨_, storeCert_granted hLen, h.alloc hc hNone hFits, iff_of_false ?_ hLen, ?_, ?_⟩
    · exact fun hEq => by cases alloc_cell_self.symm.trans hEq
    · exact Function.update_self c _ _
    · exact fun c' hNe => ⟨alloc_cell_of_ne hNe, Function.update_of_ne hNe _ _⟩

/-- Some bytes were read that did not arrive. -/
def Overread (s : State) : Prop := ∃ r ∈ s.reads, r.available < r.len

theorem Overread.not_sound (h : Overread s) : ¬ Sound s := by
  intro hSound
  obtain ⟨r, hr, hLt⟩ := h
  exact absurd (hSound.reads r hr) (Nat.not_le.mpr hLt)

/-- The pointers do not matter. -/
theorem Overread.taken (h : Overread s) :
    Overread (if ret = 0 then eap.take cs s else s) := by
  split
  · exact h
  · exact h

/-- A copy that can be made but was not sent in full. -/
def Field.Short (f : Field) (granted : Bool) : Prop :=
  f.len ≠ 0 ∧ granted = true ∧ f.available < sizeT f.len

theorem copied_or (f : Field) (granted : Bool) :
    f.Copied granted ∨ f.NoMemory granted ∨ f.Short granted := by
  by_cases hLen : f.len = 0
  · exact .inl (.inl hLen)
  · cases granted with
    | false => exact .inr (.inl ⟨hLen, rfl⟩)
    | true =>
      rcases Nat.lt_or_ge f.available (sizeT f.len) with hShort | hFits
      · exact .inr (.inr ⟨hLen, rfl, hShort⟩)
      · exact .inl (.inr ⟨rfl, hFits⟩)

theorem Field.NoMemory.not_copied (h : f.NoMemory granted) : ¬ f.Copied granted := by
  rintro (hLen | ⟨hGranted, -⟩)
  · exact h.1 hLen
  · exact Bool.false_ne_true (h.2.symm.trans hGranted)

theorem Field.Short.not_copied (h : f.Short granted) : ¬ f.Copied granted := by
  rintro (hLen | ⟨-, hFits⟩)
  · exact h.1 hLen
  · exact absurd hFits (Nat.not_le.mpr h.2.2)

theorem Field.Short.not_noMemory (h : f.Short granted) : ¬ f.NoMemory granted :=
  fun hNone => Bool.false_ne_true (hNone.2.symm.trans h.2.1)

theorem storeCert_short (h : f.Short granted) :
    ∃ s', storeCert c f granted s = .ok s' ∧ Overread s' := by
  obtain ⟨hLen, rfl, hLt⟩ := h
  exact ⟨_, storeCert_granted hLen, _, List.mem_cons_self, hLt⟩

/-- Reads are not forgotten. -/
theorem storeCert_overread (c : Credential) (f : Field) (granted : Bool) (h : Overread s) :
    (∃ s', storeCert c f granted s = .ok s' ∧ Overread s') ∨
      ∃ s', storeCert c f granted s = .error s' ∧ Overread s' := by
  rcases copied_or f granted with hCopied | hNone | hShort
  · by_cases hLen : f.len = 0
    · exact .inl ⟨_, storeCert_zero hLen, h⟩
    · obtain ⟨rfl, -⟩ := hCopied.resolve_left hLen
      obtain ⟨r, hr, hLt⟩ := h
      exact .inl ⟨_, storeCert_granted hLen, r, List.mem_cons_of_mem _ hr, hLt⟩
  · exact .inr ⟨_, storeCert_noMemory hNone, h⟩
  · exact .inl (storeCert_short hShort)

/-- However a copy ends, it concerns one buffer. -/
theorem Base.store (h : Base s) (hNone : s.heap.cell c = none)
    (hEnd : storeCert c f granted s = .ok s' ∨ storeCert c f granted s = .error s') :
    Base s' ∧ ∀ c', c' ≠ c → s'.heap.cell c' = s.heap.cell c' := by
  by_cases hLen : f.len = 0
  · rw [storeCert_zero hLen] at hEnd
    rcases hEnd with hOk | hError
    · cases hOk
      exact ⟨h.setLen hNone 0, fun _ _ => rfl⟩
    · cases hError
  · cases granted with
    | true =>
      rw [storeCert_granted hLen] at hEnd
      rcases hEnd with hOk | hError
      · cases hOk
        exact ⟨h.alloc hNone f.len _, fun c' hNe => alloc_cell_of_ne hNe⟩
      · cases hError
    | false =>
      rw [storeCert_noMemory ⟨hLen, rfl⟩] at hEnd
      rcases hEnd with hOk | hError
      · cases hOk
      · cases hError
        exact ⟨h.setLen hNone f.len, fun _ _ => rfl⟩

/-- A length without a buffer. -/
theorem not_sound_setLen (hNone : s.heap.cell c = none) {n : Int} (hLen : n ≠ 0) :
    ¬ Sound { s with len := Function.update s.len c n } := by
  intro hSound
  have hNull : Function.update s.len c n c = 0 := (hSound.null c).mp hNone
  rw [Function.update_self] at hNull
  exact hLen hNull

/-! ## The end of a request -/

/-- The credentials that a request replaced have a length exactly if they have a buffer. -/
def Settled (cs : List Credential) (s : State) : Prop :=
  ∀ c ∈ cs, s.heap.cell c = none ↔ s.len c = 0

theorem Open.null (h : Open s₀ cs s) (h₀ : Inv s₀) (hSettled : Settled cs s) (c : Credential) :
    s.heap.cell c = none ↔ s.len c = 0 := by
  by_cases hc : c ∈ cs
  · exact hSettled c hc
  · rw [h.cell c hc, h.len c hc]
    exact h₀.null c

/-- Whatever the EAP client keeps of what was freed dangles. -/
theorem Open.dangling (h : Open s₀ cs s) (h₀ : Inv s₀) {p : Nat} (hc : c ∈ cs)
    (hp : s₀.client c = some p) : ¬ Live s.heap p :=
  (h.freed c hc p (h₀.held c p hp)).not_live

theorem Open.decides_idle (h : Open s₀ cs s) (h₀ : Inv s₀) (hSettled : Settled cs s) :
    Decides (Idle s₀ cs) s := by
  constructor
  · intro hIdle
    refine ⟨h.base, fun c p hp => ?_, h.null h₀ hSettled, h.reads⟩
    rw [h.client] at hp
    by_cases hc : c ∈ cs
    · cases (hIdle c hc).symm.trans hp
    · rw [h.cell c hc]
      exact h₀.held c p hp
  · intro hSound c hc
    refine Option.eq_none_iff_forall_not_mem.mpr fun p hp => ?_
    exact h.dangling h₀ hc hp (hSound.client c p (h.client ▸ hp))

theorem Open.inv_clear (h : Open s₀ cs s) (h₀ : Inv s₀) (hSettled : Settled cs s) :
    Inv (clearClient cs s) := by
  refine ⟨⟨h.base.tidy, h.base.sized⟩, fun c p hp => ?_, h.null h₀ hSettled, h.reads⟩
  by_cases hc : c ∈ cs
  · simp only [clearClient, hc, if_true, reduceCtorEq] at hp
  · simp only [clearClient, hc, if_false, h.client] at hp
    exact (h.cell c hc).trans (h₀.held c p hp)

theorem Open.decides_take (h : Open s₀ cs s) (h₀ : Inv s₀) (hSettled : Settled cs s) :
    Decides (∀ c ∈ cs, s₀.client c = none ∨ s.heap.cell c ≠ none ∨ eap.nullReplaces = true)
      (eap.take cs s) := by
  constructor
  · intro hRenews
    refine ⟨⟨h.base.tidy, h.base.sized⟩, fun c p hp => ?_, h.null h₀ hSettled, h.reads⟩
    by_cases hc : c ∈ cs
    · simp only [EapClient.take, hc, if_true] at hp
      split at hp
      · rename_i hKept
        rw [h.client] at hp
        rcases hRenews c hc with hNone | hSome | hReplaces
        · cases hNone.symm.trans hp
        · exact absurd hKept.1 hSome
        · exact (Bool.false_ne_true (hKept.2.symm.trans hReplaces)).elim
      · exact hp
    · simp only [EapClient.take, hc, if_false, h.client] at hp
      exact (h.cell c hc).trans (h₀.held c p hp)
  · intro hSound c hc
    by_contra hNot
    simp only [not_or, not_not, Bool.not_eq_true] at hNot
    obtain ⟨hSome, hCell, hReplaces⟩ := hNot
    obtain ⟨p, hp⟩ := Option.ne_none_iff_exists'.mp hSome
    refine h.dangling h₀ hc hp (hSound.client c p ?_)
    simp only [EapClient.take, hc, if_true, hCell, hReplaces, and_self, h.client, hp]

/-! ## Requests -/

theorem setText_decides (h : Inv s) (t : Text) :
    Decides (f.Missing ∨ ret ≠ 0 ∨ f.len.toNat ≤ f.available) (setText t f ret s).2 := by
  by_cases hMissing : f.Missing
  · rw [setText, if_pos hMissing]
    exact .of_inv (.inl hMissing) h
  · by_cases hRet : ret = 0
    · rw [setText, if_neg hMissing, if_pos hRet]
      rcases Nat.lt_or_ge f.available f.len.toNat with hShort | hFits
      · refine .of_not ?_ (Overread.not_sound ⟨_, List.mem_cons_self, hShort⟩)
        rintro (hYes | hNe | hLe)
        · exact hMissing hYes
        · exact hNe hRet
        · exact absurd hLe (Nat.not_le.mpr hShort)
      · refine .of_inv (.inr (.inr hFits)) ⟨⟨h.base.tidy, h.base.sized⟩, h.held, h.null, ?_⟩
        intro r hr
        rcases List.mem_cons.mp hr with rfl | hOld
        · exact hFits
        · exact h.reads r hOld
    · rw [setText, if_neg hMissing, if_neg hRet]
      exact .of_inv (.inr (.inl hRet)) h

theorem freeGCaCert_open (h : Inv s) : Open s [.caCert] (freeGCaCert s) :=
  (Open.start h).clear .caCert

theorem freeGCaCert_settled (s : State) : Settled [.caCert] (freeGCaCert s) := by
  intro c hc
  rw [List.mem_singleton.mp hc]
  exact iff_of_true clearCert_cell_self clearCert_len_self

theorem set_ca_cert_iff (h : Inv s) : Decides
    (f.Missing ∨ (f.Copied granted ∧ (ret = 0 ∨ Idle s [.caCert])))
    (reqEapSetCaCert eap f granted ret s).2 := by
  by_cases hMissing : f.Missing
  · rw [reqEapSetCaCert, if_pos hMissing]
    exact .of_inv (.inl hMissing) h
  rw [or_iff_right hMissing, reqEapSetCaCert, if_neg hMissing]
  have hLen : f.len ≠ 0 := by
    intro hZero
    exact hMissing (.inr (by omega))
  have hOpen := freeGCaCert_open h
  have hNone : (freeGCaCert s).heap.cell .caCert = none := clearCert_cell_self
  rcases copied_or f granted with hCopied | hNoMemory | hShort
  · obtain ⟨s', hStore, hOpen', hStored⟩ :=
      storeCert_copied hOpen List.mem_cons_self hNone hCopied
    have hCell : s'.heap.cell .caCert ≠ none := fun hEq => hLen (hStored.cell.mp hEq)
    have hSettled : Settled [.caCert] s' := by
      intro c hc
      rw [List.mem_singleton.mp hc]
      exact iff_of_false hCell (hStored.len ▸ hLen)
    simp only [hStore]
    by_cases hRet : ret = 0
    · rw [if_pos hRet]
      refine .of_inv ⟨hCopied, .inl hRet⟩ ((hOpen'.decides_take h hSettled).inv fun c hc => ?_)
      rw [List.mem_singleton.mp hc]
      exact .inr (.inl hCell)
    · rw [if_neg hRet]
      refine (hOpen'.decides_idle h hSettled).congr ?_
      rw [and_iff_right hCopied, or_iff_right hRet]
  · simp only [storeCert_noMemory hNoMemory]
    exact .of_not (fun hBoth => hNoMemory.not_copied hBoth.1) (not_sound_setLen hNone hLen)
  · obtain ⟨s', hStore, hOver⟩ := storeCert_short (c := .caCert) (s := freeGCaCert s) hShort
    simp only [hStore]
    exact .of_not (fun hBoth => hShort.not_copied hBoth.1) hOver.taken.not_sound

theorem freeAll_open (h : Inv s) : Open s certAndKey (freeAllGEapCertAndKey s) :=
  (Open.start h).freeAll

/-- The buffers of the certificate, the key and the password are gone. -/
theorem freeAll_empty (s : State) (hc : c ∈ certAndKey) :
    (freeAllGEapCertAndKey s).heap.cell c = none ∧ (freeAllGEapCertAndKey s).len c = 0 := by
  unfold freeAllGEapCertAndKey
  cases c with
  | caCert => simp [certAndKey] at hc
  | privateKeyPassword => exact ⟨clearCert_cell_self, clearCert_len_self⟩
  | privateKey =>
    rw [clearCert_cell_of_ne (by decide), clearCert_len_of_ne (by decide)]
    exact ⟨clearCert_cell_self, clearCert_len_self⟩
  | clientCert =>
    rw [clearCert_cell_of_ne (by decide), clearCert_len_of_ne (by decide),
      clearCert_cell_of_ne (by decide), clearCert_len_of_ne (by decide)]
    exact ⟨clearCert_cell_self, clearCert_len_self⟩

theorem freeAll_settled (s : State) : Settled certAndKey (freeAllGEapCertAndKey s) :=
  fun _ hc => iff_of_true (freeAll_empty s hc).1 (freeAll_empty s hc).2

/-- The exit that frees everything again. -/
theorem Open.decides_freeAll (h : Open s₀ certAndKey s) (h₀ : Inv s₀) :
    Decides (Idle s₀ certAndKey) (freeAllGEapCertAndKey s) := by
  have hOpen : Open s₀ certAndKey (freeAllGEapCertAndKey s) :=
    h.freeAll.congr fun c => by rw [List.mem_append, or_self]
  exact hOpen.decides_idle h₀ (freeAll_settled s)

/-- The last step of a set. -/
theorem taken_decides {r : CertAndKey} (h₀ : Inv s₀) (h : Open s₀ certAndKey s)
    (hCell : ∀ c ∈ certAndKey, s.heap.cell c = none ↔ r.len c = 0)
    (hLen : ∀ c ∈ certAndKey, s.len c = r.len c) :
    Decides (Renews eap s₀ certAndKey r.len ret)
      (if ret = 0 then eap.take certAndKey s else s) := by
  have hSettled : Settled certAndKey s := fun c hc => by rw [hCell c hc, hLen c hc]
  unfold Renews
  split
  · refine (h.decides_take h₀ hSettled).congr (forall_congr' fun c => forall_congr' fun hc => ?_)
    rw [ne_eq, hCell c hc]
  · exact h.decides_idle h₀ hSettled

theorem overread_password {r : CertAndKey} {s₁ : State}
    (hStore : storeCert .privateKey r.privateKey r.privateKeyGranted s = .ok s₁)
    (h : Overread s₁) : Overread (storeKeyAndPassword eap r ret s).2 := by
  unfold storeKeyAndPassword
  rw [hStore]
  rcases storeCert_overread .privateKeyPassword r.privateKeyPassword
    r.privateKeyPasswordGranted h with ⟨s₂, hStore₂, h₂⟩ | ⟨s₂, hStore₂, h₂⟩
  · rw [show Except.ok s₁ >>= _ = _ from hStore₂]
    exact h₂.taken
  · rw [show Except.ok s₁ >>= _ = _ from hStore₂]
    exact h₂

theorem overread_keyAndPassword {r : CertAndKey} (h : Overread s) :
    Overread (storeKeyAndPassword eap r ret s).2 := by
  rcases storeCert_overread .privateKey r.privateKey r.privateKeyGranted h with
    ⟨s₁, hStore, h₁⟩ | ⟨s₁, hStore, h₁⟩
  · exact overread_password hStore h₁
  · unfold storeKeyAndPassword
    rw [hStore]
    exact h₁

/-- The password, once the key is stored. -/
theorem password_decides {r : CertAndKey} {s₁ : State} (h₀ : Inv s₀)
    (hStore : storeCert .privateKey r.privateKey r.privateKeyGranted s = .ok s₁)
    (h : Open s₀ certAndKey s₁)
    (hCell : ∀ c ∈ certAndKey, c ≠ .privateKeyPassword →
      ((s₁.heap.cell c = none ↔ r.len c = 0) ∧ s₁.len c = r.len c))
    (hNone : s₁.heap.cell .privateKeyPassword = none) :
    Decides ((r.privateKeyPassword.NoMemory r.privateKeyPasswordGranted ∧ Idle s₀ certAndKey) ∨
        (r.privateKeyPassword.Copied r.privateKeyPasswordGranted ∧
          Renews eap s₀ certAndKey r.len ret))
      (storeKeyAndPassword eap r ret s).2 := by
  have hMem : Credential.privateKeyPassword ∈ certAndKey := List.mem_cons_self
  unfold storeKeyAndPassword
  rw [hStore]
  rcases copied_or r.privateKeyPassword r.privateKeyPasswordGranted with
    hCopied | hNoMemory | hShort
  · obtain ⟨s₂, hStore₂, hOpen, hStored⟩ := storeCert_copied h hMem hNone hCopied
    rw [show Except.ok s₁ >>= _ = _ from hStore₂]
    have hAll : ∀ c ∈ certAndKey, (s₂.heap.cell c = none ↔ r.len c = 0) ∧ s₂.len c = r.len c := by
      intro c hc
      by_cases hEq : c = .privateKeyPassword
      · rw [hEq]
        exact ⟨hStored.cell, hStored.len⟩
      · rw [(hStored.others c hEq).1, (hStored.others c hEq).2]
        exact hCell c hc hEq
    refine (taken_decides h₀ hOpen (fun c hc => (hAll c hc).1) fun c hc => (hAll c hc).2).congr ?_
    have hHas : ¬ r.privateKeyPassword.NoMemory r.privateKeyPasswordGranted :=
      fun hNoMemory => hNoMemory.not_copied hCopied
    rw [or_iff_right fun hBoth => hHas hBoth.1, and_iff_right hCopied]
  · rw [show Except.ok s₁ >>= _ = _ from storeCert_noMemory hNoMemory]
    refine ((h.setLen hMem hNone _).decides_freeAll h₀).congr ?_
    rw [and_iff_right hNoMemory, or_iff_left fun hBoth => hNoMemory.not_copied hBoth.1]
  · obtain ⟨s₂, hStore₂, hOver⟩ := storeCert_short (c := .privateKeyPassword) (s := s₁) hShort
    rw [show Except.ok s₁ >>= _ = _ from hStore₂]
    refine .of_not ?_ hOver.taken.not_sound
    rintro (hBoth | hBoth)
    · exact hShort.not_noMemory hBoth.1
    · exact hShort.not_copied hBoth.1

/-- The key and the password, once the client certificate is stored. -/
theorem keyAndPassword_decides {r : CertAndKey} (h₀ : Inv s₀) (h : Open s₀ certAndKey s)
    (hCert : s.heap.cell .clientCert = none ↔ r.clientCert.len = 0)
    (hCertLen : s.len .clientCert = r.clientCert.len) (hKey : s.heap.cell .privateKey = none)
    (hPassword : s.heap.cell .privateKeyPassword = none) :
    Decides ((r.privateKey.NoMemory r.privateKeyGranted ∧ Idle s₀ certAndKey) ∨
      (r.privateKey.Copied r.privateKeyGranted ∧
        ((r.privateKeyPassword.NoMemory r.privateKeyPasswordGranted ∧ Idle s₀ certAndKey) ∨
          (r.privateKeyPassword.Copied r.privateKeyPasswordGranted ∧
            Renews eap s₀ certAndKey r.len ret)))) (storeKeyAndPassword eap r ret s).2 := by
  have hMem : Credential.privateKey ∈ certAndKey := by simp [certAndKey]
  rcases copied_or r.privateKey r.privateKeyGranted with hCopied | hNoMemory | hShort
  · obtain ⟨s₁, hStore, hOpen, hStored⟩ := storeCert_copied h hMem hKey hCopied
    refine (password_decides h₀ hStore hOpen (fun c hc hNe => ?_) ?_).congr ?_
    · cases c with
      | caCert => simp [certAndKey] at hc
      | privateKeyPassword => exact absurd rfl hNe
      | privateKey => exact ⟨hStored.cell, hStored.len⟩
      | clientCert =>
        rw [(hStored.others .clientCert (by decide)).1, (hStored.others .clientCert (by decide)).2]
        exact ⟨hCert, hCertLen⟩
    · rw [(hStored.others .privateKeyPassword (by decide)).1]
      exact hPassword
    · have hHas : ¬ r.privateKey.NoMemory r.privateKeyGranted :=
        fun hNoMemory => hNoMemory.not_copied hCopied
      exact ⟨fun hRest => .inr ⟨hCopied, hRest⟩,
        fun hEither => (hEither.resolve_left fun hBoth => hHas hBoth.1).2⟩
  · unfold storeKeyAndPassword
    rw [storeCert_noMemory hNoMemory]
    refine ((h.setLen hMem hKey _).decides_freeAll h₀).congr ?_
    rw [and_iff_right hNoMemory, or_iff_left fun hBoth => hNoMemory.not_copied hBoth.1]
  · obtain ⟨s₁, hStore, hOver⟩ := storeCert_short (c := .privateKey) (s := s) hShort
    refine .of_not ?_ (overread_password hStore hOver).not_sound
    rintro (hBoth | hBoth)
    · exact hShort.not_noMemory hBoth.1
    · exact hShort.not_copied hBoth.1

theorem replaceCertAndKey_decides {r : CertAndKey} (h : Inv s) :
    Decides (r.Keeps eap s ret) (replaceCertAndKey eap r ret s).2 := by
  have hMem : Credential.clientCert ∈ certAndKey := by simp [certAndKey]
  have hOpen := freeAll_open h
  have hNone := (freeAll_empty s hMem).1
  unfold replaceCertAndKey CertAndKey.Keeps
  rcases copied_or r.clientCert r.clientCertGranted with hCopied | hNoMemory | hShort
  · obtain ⟨s₁, hStore, hOpen₁, hStored⟩ := storeCert_copied hOpen hMem hNone hCopied
    have hKey := (hStored.others .privateKey (by decide)).1
    have hPassword := (hStored.others .privateKeyPassword (by decide)).1
    rw [(freeAll_empty s (by simp [certAndKey])).1] at hKey hPassword
    rw [hStore, and_iff_right hCopied]
    exact keyAndPassword_decides h hOpen₁ hStored.cell hStored.len hKey hPassword
  · rw [storeCert_noMemory hNoMemory]
    exact .of_not (fun hBoth => hNoMemory.not_copied hBoth.1) (not_sound_setLen hNone hNoMemory.1)
  · obtain ⟨s₁, hStore, hOver⟩ :=
      storeCert_short (c := .clientCert) (s := freeAllGEapCertAndKey s) hShort
    rw [hStore]
    exact .of_not (fun hBoth => hShort.not_copied hBoth.1) (overread_keyAndPassword hOver).not_sound

theorem set_certificate_and_key_iff {r : CertAndKey} (h : Inv s) :
    Decides (r.Mismatched ∨ r.Keeps eap s ret) (reqEapSetCertificateAndKey eap r ret s).2 := by
  by_cases hMismatched : r.Mismatched
  · have hSame : (reqEapSetCertificateAndKey eap r ret s).2 = s := by
      unfold reqEapSetCertificateAndKey
      rcases hMismatched with hCert | hKey | hPassword
      · rw [if_pos hCert]
      · rw [if_pos hKey, ite_self]
      · rw [if_pos hPassword, ite_self, ite_self]
    rw [hSame]
    exact .of_inv (.inl hMismatched) h
  · rw [or_iff_right hMismatched]
    simp only [CertAndKey.Mismatched, not_or] at hMismatched
    obtain ⟨hCert, hKey, hPassword⟩ := hMismatched
    rw [reqEapSetCertificateAndKey, if_neg hCert, if_neg hKey, if_neg hPassword]
    exact replaceCertAndKey_decides h

theorem freeAll_caCert (s : State) :
    (freeAllGEapCertAndKey s).heap.cell .caCert = s.heap.cell .caCert ∧
      (freeAllGEapCertAndKey s).len .caCert = s.len .caCert := by
  unfold freeAllGEapCertAndKey
  constructor
  · rw [clearCert_cell_of_ne (by decide), clearCert_cell_of_ne (by decide),
      clearCert_cell_of_ne (by decide)]
  · rw [clearCert_len_of_ne (by decide), clearCert_len_of_ne (by decide),
      clearCert_len_of_ne (by decide)]

/-- The end of enterprise mode frees everything. -/
theorem disable_decides (h : Inv s) :
    Decides ((ret = 0 ∧ eap.disableClears = true) ∨ Idle s allCerts)
      (reqWifiStaEnterpriseDisable eap ret s).2 := by
  have hOpen : Open s allCerts (freeAllGEapCertAndKey (freeGCaCert s)) :=
    (freeGCaCert_open h).freeAll
  have hSettled : Settled allCerts (freeAllGEapCertAndKey (freeGCaCert s)) := by
    intro c hc
    rcases List.mem_append.mp hc with hMem | hMem
    · exact freeAll_settled _ c hMem
    · rw [List.mem_singleton.mp hMem, (freeAll_caCert _).1, (freeAll_caCert _).2]
      exact iff_of_true clearCert_cell_self clearCert_len_self
  unfold reqWifiStaEnterpriseDisable
  by_cases hClears : ret = 0 ∧ eap.disableClears = true
  · dsimp only
    rw [if_pos hClears]
    exact .of_inv (.inl hClears) (hOpen.inv_clear h hSettled)
  · dsimp only
    rw [if_neg hClears, or_iff_right hClears]
    exact hOpen.decides_idle h hSettled

theorem request_decides (h : Inv s) (r : Request) :
    Decides (r.Keeps eap s) (r.handle eap s).2 := by
  cases r with
  | setIdentity f ret => exact setText_decides h .identity
  | setUsername f ret => exact setText_decides h .username
  | setPassword f ret => exact setText_decides h .password
  | setNewPassword f ret => exact setText_decides h .password
  | clearText => exact .of_inv trivial h
  | setCaCert f granted ret => exact set_ca_cert_iff h
  | clearCaCert =>
    exact .of_inv trivial ((freeGCaCert_open h).inv_clear h (freeGCaCert_settled s))
  | setCertificateAndKey r ret => exact set_certificate_and_key_iff h
  | clearCertificateAndKey =>
    exact .of_inv trivial ((freeAll_open h).inv_clear h (freeAll_settled s))
  | enterpriseDisable ret => exact disable_decides h

theorem action_decides (eap : EapClient) (h : Inv s) (a : Action) :
    Decides (Keeps eap s a) (a.handle eap s).2 := by
  obtain ⟨template, request⟩ := a
  cases template with
  | some reply => exact .of_inv (fun hNone => by cases hNone) h
  | none => exact (request_decides h request).congr ⟨fun hReq _ => hReq, fun hAll => hAll rfl⟩

/-! ## The buffers in every run -/

theorem Base.taken (h : Base s) : Base (if ret = 0 then eap.take cs s else s) := by
  split
  · exact ⟨h.tidy, h.sized⟩
  · exact h

theorem Base.clearClient (h : Base s) : Base (clearClient cs s) := ⟨h.tidy, h.sized⟩

theorem Base.freeAll (h : Base s) : Base (freeAllGEapCertAndKey s) :=
  ((h.clear .clientCert).clear .privateKey).clear .privateKeyPassword

theorem Base.setText (h : Base s) (t : Text) : Base (setText t f ret s).2 := by
  unfold Enterprise.setText
  split
  · exact h
  · split
    · exact ⟨h.tidy, h.sized⟩
    · exact h

theorem Base.setCaCert (h : Base s) : Base (reqEapSetCaCert eap f granted ret s).2 := by
  have hNone : (freeGCaCert s).heap.cell .caCert = none := clearCert_cell_self
  unfold reqEapSetCaCert
  split
  · exact h
  · cases hStore : storeCert .caCert f granted (freeGCaCert s) with
    | error s' => exact ((h.clear .caCert).store hNone (.inr hStore)).1
    | ok s' => exact ((h.clear .caCert).store hNone (.inl hStore)).1.taken

theorem Base.storeKeyAndPassword {r : CertAndKey} (h : Base s)
    (hKey : s.heap.cell .privateKey = none) (hPassword : s.heap.cell .privateKeyPassword = none) :
    Base (storeKeyAndPassword eap r ret s).2 := by
  unfold Enterprise.storeKeyAndPassword
  cases hStore : storeCert .privateKey r.privateKey r.privateKeyGranted s with
  | error s₁ => exact (h.store hKey (.inr hStore)).1.freeAll
  | ok s₁ =>
    obtain ⟨h₁, hOthers⟩ := h.store hKey (.inl hStore)
    have hNone := (hOthers .privateKeyPassword (by decide)).trans hPassword
    cases hStore₂ : storeCert .privateKeyPassword r.privateKeyPassword
        r.privateKeyPasswordGranted s₁ with
    | error s₂ =>
      rw [show Except.ok s₁ >>= _ = _ from hStore₂]
      exact (h₁.store hNone (.inr hStore₂)).1.freeAll
    | ok s₂ =>
      rw [show Except.ok s₁ >>= _ = _ from hStore₂]
      exact (h₁.store hNone (.inl hStore₂)).1.taken

theorem Base.replaceCertAndKey {r : CertAndKey} (h : Base s) :
    Base (replaceCertAndKey eap r ret s).2 := by
  have hEmpty : ∀ c ∈ certAndKey, (freeAllGEapCertAndKey s).heap.cell c = none :=
    fun c hc => (freeAll_empty s hc).1
  have hCert := hEmpty .clientCert (by decide)
  unfold Enterprise.replaceCertAndKey
  cases hStore : storeCert .clientCert r.clientCert r.clientCertGranted
      (freeAllGEapCertAndKey s) with
  | error s₁ => exact (h.freeAll.store hCert (.inr hStore)).1
  | ok s₁ =>
    obtain ⟨h₁, hOthers⟩ := h.freeAll.store hCert (.inl hStore)
    refine h₁.storeKeyAndPassword ?_ ?_
    · exact (hOthers .privateKey (by decide)).trans (hEmpty .privateKey (by decide))
    · exact (hOthers .privateKeyPassword (by decide)).trans
        (hEmpty .privateKeyPassword (by decide))

theorem Base.request (h : Base s) (r : Request) : Base (r.handle eap s).2 := by
  cases r with
  | setIdentity f ret => exact h.setText .identity
  | setUsername f ret => exact h.setText .username
  | setPassword f ret => exact h.setText .password
  | setNewPassword f ret => exact h.setText .password
  | clearText => exact h
  | setCaCert f granted ret => exact h.setCaCert
  | clearCaCert => exact (h.clear .caCert).clearClient
  | setCertificateAndKey r ret =>
    show Base (reqEapSetCertificateAndKey eap r ret s).2
    unfold reqEapSetCertificateAndKey
    split
    · exact h
    · split
      · exact h
      · split
        · exact h
        · exact h.replaceCertAndKey
  | clearCertificateAndKey => exact h.freeAll.clearClient
  | enterpriseDisable ret =>
    have hBase : Base (freeAllGEapCertAndKey (freeGCaCert s)) := (h.clear .caCert).freeAll
    show Base (reqWifiStaEnterpriseDisable eap ret s).2
    unfold reqWifiStaEnterpriseDisable
    dsimp only
    split
    · exact hBase.clearClient
    · exact hBase

/-- Whatever the requests are, a buffer is held, or it was wiped over its full length and freed
once. -/
theorem wiped_and_freed (hRun : Reaches (step eap) anyStep boot s) :
    ∀ p b, s.heap.blocks[p]? = some b →
      (b.frees = 0 ∧ ∃ c, s.heap.cell c = some p) ∨ (b.frees = 1 ∧ b.wiped = b.size) := by
  have hBase := hRun.invariant (I := Base) boot_inv.base fun s a t hBase _ hStep => by
    cases hStep
    obtain ⟨template, request⟩ := a
    cases template with
    | some reply => exact hBase
    | none => exact hBase.request request
  exact hBase.tidy.once

/-! ## Every run -/

/-- For every sequence of requests, every length field and every failure. -/
theorem credential_lifetime (eap : EapClient) {s : State}
    (hRun : Reaches (step eap) (Keeps eap) boot s) :
    Sound s ∧ ∀ a, Sound (a.handle eap s).2 ↔ Keeps eap s a := by
  have hInv := hRun.invariant (I := Inv) boot_inv fun s a t hInv hKeeps hStep => by
    cases hStep
    exact (action_decides eap hInv a).inv hKeeps
  refine ⟨hInv.sound, fun a => ⟨(action_decides eap hInv a).cond, fun hKeeps => ?_⟩⟩
  exact ((action_decides eap hInv a).inv hKeeps).sound

theorem reaches_handle {G : State → Action → Prop} (hRun : Reaches (step eap) G boot s)
    (a : Action) (hG : G s a) : Reaches (step eap) G boot (a.handle eap s).2 :=
  hRun.next hG rfl

/-- Three bytes with a length. -/
def threeBytes (len : Int) : Field := ⟨some [0x30, 0x82, 0x01], len⟩

/-- A CA certificate is set and cleared. -/
theorem credential_lifetime_cleared : ∃ s,
    Reaches (step ⟨false, false⟩) (Keeps ⟨false, false⟩) boot s ∧ s.heap.blocks = [⟨3, 3, 1⟩] ∧
      (Sound s ∧ ∀ a, Sound (a.handle ⟨false, false⟩ s).2 ↔ Keeps ⟨false, false⟩ s a) := by
  have hSet : Reaches (step ⟨false, false⟩) (Keeps ⟨false, false⟩) boot _ :=
    reaches_handle .start ⟨none, .setCaCert (threeBytes 3) true 0⟩
      fun _ => .inr ⟨.inr ⟨rfl, by decide⟩, .inl rfl⟩
  have hRun := reaches_handle hSet ⟨none, .clearCaCert⟩ fun _ => trivial
  exact ⟨_, hRun, by decide, credential_lifetime ⟨false, false⟩ hRun⟩

/-- A CA certificate is replaced by one for which there is no memory. -/
theorem wiped_and_freed_replaced : ∃ s, Reaches (step ⟨true, true⟩) anyStep boot s ∧
    s.heap.blocks = [⟨3, 3, 1⟩] ∧ ∀ p b, s.heap.blocks[p]? = some b →
      (b.frees = 0 ∧ ∃ c, s.heap.cell c = some p) ∨ (b.frees = 1 ∧ b.wiped = b.size) := by
  have hSet : Reaches (step ⟨true, true⟩) anyStep boot _ :=
    reaches_handle .start ⟨none, .setCaCert (threeBytes 3) true 0⟩ trivial
  have hRun := reaches_handle hSet ⟨none, .setCaCert (threeBytes 3) false 0⟩ trivial
  exact ⟨_, hRun, rfl, wiped_and_freed hRun⟩

/-- A CA certificate is replaced when there is no memory: the EAP client keeps the freed buffer, and
the length stays without a buffer. With a length of 100, bytes behind the certificate are read. -/
theorem not_credential_lifetime :
    (∃ s, Reaches (step ⟨true, true⟩) anyStep boot s ∧ s.client .caCert = some 0 ∧
      s.heap.blocks = [⟨3, 3, 1⟩] ∧ s.heap.cell .caCert = none ∧ s.len .caCert = 3 ∧ ¬ Sound s) ∧
    ∃ s, Reaches (step ⟨true, true⟩) anyStep boot s ∧ s.reads = [⟨.inr .caCert, 100, 3⟩] ∧
      ¬ Sound s := by
  constructor
  · have hSet : Reaches (step ⟨true, true⟩) anyStep boot _ :=
      reaches_handle .start ⟨none, .setCaCert (threeBytes 3) true 0⟩ trivial
    refine ⟨_, reaches_handle hSet ⟨none, .setCaCert (threeBytes 3) false 0⟩ trivial,
      rfl, rfl, rfl, rfl, fun hSound => ?_⟩
    have hLen := (hSound.null .caCert).mp rfl
    exact absurd hLen (show (3 : Int) ≠ 0 by decide)
  · have hSet : Reaches (step ⟨true, true⟩) anyStep boot _ :=
      reaches_handle .start ⟨none, .setCaCert (threeBytes 100) true 0⟩ trivial
    refine ⟨_, hSet, rfl, fun hSound => ?_⟩
    have hRead := hSound.reads _ List.mem_cons_self
    exact absurd hRead (show ¬ 100 ≤ 3 by decide)

end EspHosted.Wifi.Enterprise
