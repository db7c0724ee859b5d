import Data360.AuthSessionRegistry.Credentials
import Mathlib.Logic.Function.Basic
import Mathlib.Logic.Relation

/-!
# Concurrent installations of session secrets

`InstallTemporarySessionSecret` of `src/session_credentials.cpp`, called any
number of times at once.  A call reads the handle that the catalog has under
its name, replaces it, and retires the credential it has displaced; or it fails
and takes its own credential back.

`InstallStep` is one step of one call, of another user of the registry, or of
the clock.  A transaction reads the snapshot that was committed when it began;
registering a name throws if another transaction has written its entry or
committed it since; a commit installs the entry, or throws and installs nothing.

The catalog compares names in its own way (`fold`, any function), the lock by
their bytes.  Two spellings of one entry need not share a lock, so the
invariant rests on the conflict alone: the lock only spares calls from failing.

* `CallInv` says what holds of a call in each of its phases, and `Consistent`
  of all calls together.
* `consistent_step` keeps it through one step.
* `installs_leave_handles` says what is left when all calls have finished.
-/

namespace Data360

open Lib.ByteString

/-! ## The catalog -/

/-- A temporary secret of the catalog, as far as the installation reads it.
`sessionId` is its `session_id`, if it has one that is not NULL. -/
structure CatalogSecret where
  secretType : String
  provider : String
  sessionId : Option Bytes
  deriving DecidableEq, Repr

/-- `SessionData360Secret`. -/
def sessionData360Secret (credentialId : Bytes) : CatalogSecret where
  secretType := "data360"
  provider := "oauth_pkce"
  sessionId := some credentialId

/-- The committed temporary secrets, by the name of their entry. -/
abbrev Catalog := Bytes → Option CatalogSecret

/-- The `old_credential_id` that the lookup finds; empty for none. -/
def Catalog.oldCredentialId (catalog : Catalog) (entry : Bytes) : Bytes :=
  match catalog entry with
  | none => []
  | some secret =>
      if secret.secretType = "data360" ∧ secret.provider = "oauth_pkce" then
        secret.sessionId.getD []
      else []

/-! ## The calls -/

/-- The arguments of a call, with the expiry under which its credential is
stored. -/
structure InstallCall where
  secretName : Bytes
  credentialId : Bytes
  expiresAtMs : UInt64

/-- Where a call stands. -/
inductive InstallPhase where
  /-- Its credential is not stored yet. -/
  | waiting
  | stored
  /-- It holds the lock of its name. -/
  | locked
  | began (snapshot : Catalog)
  | lookedUp (snapshot : Catalog) (old : Bytes)
  | registered (old : Bytes)
  | committed (old : Bytes)
  /-- In the handler, after the rollback. -/
  | failed (old : Bytes)
  /-- It is done, and about to let the lock go. -/
  | leaving
  | finished

/-- Its commit is behind the call. -/
def InstallPhase.Past : InstallPhase → Prop
  | .committed _ | .leaving | .finished => True
  | _ => False

/-- The registry, the catalog, the replacement locks, the calls and the clock. -/
structure InstallWorld (ι : Type) where
  registry : Registry
  catalog : Catalog
  locks : Fin 64 → Option ι
  phase : ι → InstallPhase
  now : UInt64

/-- `std::hash(secret_name) % secret_replacement_mutexes.size()`. -/
def stripe (hash : Bytes → UInt64) (secretName : Bytes) : Fin 64 :=
  Fin.ofNat 64 (hash secretName).toNat

variable {ι : Type} [DecidableEq ι]

namespace InstallWorld

/-- The world after call `i` has gone on. -/
def goto (w : InstallWorld ι) (i : ι) (phase : InstallPhase) : InstallWorld ι :=
  { w with phase := Function.update w.phase i phase }

/-- The world after a call on the registry. -/
def onRegistry (w : InstallWorld ι) (call : Call) : InstallWorld ι :=
  { w with registry := (exec call w.registry).registry }

/-- `registry.RemoveCredential(id)` under a condition. -/
def removeIf (w : InstallWorld ι) (condition : Prop) [Decidable condition] (id : Bytes) :
    InstallWorld ι :=
  if condition then w.onRegistry (.removeCredential id) else w

def setLock (w : InstallWorld ι) (lock : Fin 64) (holder : Option ι) : InstallWorld ι :=
  { w with locks := Function.update w.locks lock holder }

/-- `Commit` of the secret with this handle. -/
def commit (w : InstallWorld ι) (entry credentialId : Bytes) : InstallWorld ι :=
  { w with catalog := Function.update w.catalog entry (some (sessionData360Secret credentialId)) }

end InstallWorld

section

variable (hash : Bytes → UInt64) (fold : Bytes → Bytes) (calls : ι → InstallCall)

/-- The entry of the catalog that the call writes. -/
def entryOf (i : ι) : Bytes := fold (calls i).secretName

/-- The lock that the call takes. -/
def lockOf (i : ι) : Fin 64 := stripe hash (calls i).secretName

/-- No other transaction has written the entry, or committed it since the
snapshot. -/
def NoConflict (w : InstallWorld ι) (i : ι) (snapshot : Catalog) : Prop :=
  w.catalog (entryOf fold calls i) = snapshot (entryOf fold calls i) ∧
    ∀ k old, w.phase k = .registered old → entryOf fold calls k ≠ entryOf fold calls i

/-- One step.  The last two are those of the other users of the registry, who
neither remove these credentials nor store one under the same identifier, and
of the clock. -/
inductive InstallStep : InstallWorld ι → InstallWorld ι → Prop
  | store (w : InstallWorld ι) (i : ι) (instanceUrl accessToken : Bytes)
      (now nowLocked : UInt64) (fill : Nat → Entropy) (phase : w.phase i = .waiting)
      (stored : (exec (.storeCredential instanceUrl accessToken (calls i).expiresAtMs now nowLocked
        fill) w.registry).outcome = .ok (.credentialId (calls i).credentialId))
      (time : nowLocked ≤ w.now) :
      InstallStep w ((w.onRegistry (.storeCredential instanceUrl accessToken
        (calls i).expiresAtMs now nowLocked fill)).goto i .stored)
  | lock (w : InstallWorld ι) (i : ι) (phase : w.phase i = .stored)
      (free : w.locks (lockOf hash calls i) = none) :
      InstallStep w ((w.setLock (lockOf hash calls i) (some i)).goto i .locked)
  | begin (w : InstallWorld ι) (i : ι) (phase : w.phase i = .locked) :
      InstallStep w (w.goto i (.began w.catalog))
  | beginThrows (w : InstallWorld ι) (i : ι) (phase : w.phase i = .locked) :
      InstallStep w (w.goto i (.failed []))
  | lookup (w : InstallWorld ι) (i : ι) (snapshot : Catalog) (phase : w.phase i = .began snapshot) :
      InstallStep w
        (w.goto i (.lookedUp snapshot (snapshot.oldCredentialId (entryOf fold calls i))))
  | lookupThrows (w : InstallWorld ι) (i : ι) (snapshot : Catalog)
      (phase : w.phase i = .began snapshot) : InstallStep w (w.goto i (.failed []))
  | register (w : InstallWorld ι) (i : ι) (snapshot : Catalog) (old : Bytes)
      (phase : w.phase i = .lookedUp snapshot old) (free : NoConflict fold calls w i snapshot) :
      InstallStep w (w.goto i (.registered old))
  | registerThrows (w : InstallWorld ι) (i : ι) (snapshot : Catalog) (old : Bytes)
      (phase : w.phase i = .lookedUp snapshot old) : InstallStep w (w.goto i (.failed old))
  | commit (w : InstallWorld ι) (i : ι) (old : Bytes) (phase : w.phase i = .registered old) :
      InstallStep w
        ((w.commit (entryOf fold calls i) (calls i).credentialId).goto i (.committed old))
  | commitThrows (w : InstallWorld ι) (i : ι) (old : Bytes) (phase : w.phase i = .registered old) :
      InstallStep w (w.goto i (.failed old))
  /-- The handler removes the new credential. -/
  | takeBack (w : InstallWorld ι) (i : ι) (old : Bytes) (phase : w.phase i = .failed old) :
      InstallStep w ((w.removeIf ((calls i).credentialId ≠ old)
        (calls i).credentialId).goto i .leaving)
  /-- After the commit the displaced credential is removed. -/
  | retire (w : InstallWorld ι) (i : ι) (old : Bytes) (phase : w.phase i = .committed old) :
      InstallStep w ((w.removeIf (old ≠ [] ∧ old ≠ (calls i).credentialId) old).goto i .leaving)
  | unlock (w : InstallWorld ι) (i : ι) (phase : w.phase i = .leaving) :
      InstallStep w ((w.setLock (lockOf hash calls i) none).goto i .finished)
  | other (w : InstallWorld ι) (call : Call)
      (keeps : ∀ i, call ≠ .removeCredential (calls i).credentialId)
      (fresh : ∀ i, (exec call w.registry).outcome ≠ .ok (.credentialId (calls i).credentialId))
      (time : ∀ reading, call.purgeTime = some reading → reading ≤ w.now) :
      InstallStep w (w.onRegistry call)
  | tick (w : InstallWorld ι) (now : UInt64) (later : w.now ≤ now) :
      InstallStep w { w with now }

/-- Nothing has been done for any call, and no secret holds one of the new
handles. -/
structure InstallStart (w : InstallWorld ι) : Prop where
  waiting : ∀ i, w.phase i = .waiting
  unlocked : ∀ lock, w.locks lock = none
  absent : ∀ i, w.registry.credentials[(calls i).credentialId]? = none
  unheld : ∀ i entry, w.catalog.oldCredentialId entry ≠ (calls i).credentialId

end

/-! ## The invariant -/

namespace InstallWorld

/-- The credential of the call is in the registry. -/
def Present (w : InstallWorld ι) (call : InstallCall) : Prop :=
  ∃ credential, w.registry.credentials[call.credentialId]? = some credential ∧
    credential.expiresAtMs = call.expiresAtMs

/-- It is there unless it has expired. -/
def Alive (w : InstallWorld ι) (call : InstallCall) : Prop :=
  w.now < call.expiresAtMs → w.Present call

/-- It is not there. -/
def Absent (w : InstallWorld ι) (call : InstallCall) : Prop :=
  w.registry.credentials[call.credentialId]? = none

/-- No committed secret holds the handle. -/
def Unheld (w : InstallWorld ι) (call : InstallCall) : Prop :=
  ∀ entry, w.catalog.oldCredentialId entry ≠ call.credentialId

/-- A committed secret holds the handle. -/
def Held (w : InstallWorld ι) (call : InstallCall) : Prop :=
  ∃ entry, w.catalog.oldCredentialId entry = call.credentialId

/-- Some call has displaced the handle and will retire it. -/
def Pending (w : InstallWorld ι) (call : InstallCall) : Prop :=
  ∃ k, w.phase k = .committed call.credentialId

/-- The handle is committed and its credential alive, or it is not committed and
its credential is gone, or about to be removed. -/
def Accounted (w : InstallWorld ι) (call : InstallCall) : Prop :=
  w.Held call ∧ w.Alive call ∨ w.Unheld call ∧ (w.Absent call ∨ w.Pending call)

end InstallWorld

variable {hash : Bytes → UInt64} {fold : Bytes → Bytes} {calls : ι → InstallCall}

/-- What holds of a call in each of its phases. -/
def CallInv (fold : Bytes → Bytes) (calls : ι → InstallCall) (w : InstallWorld ι) (i : ι) :
    Prop :=
  match w.phase i with
  | .waiting => w.Absent (calls i) ∧ w.Unheld (calls i)
  | .stored | .locked => w.Alive (calls i) ∧ w.Unheld (calls i)
  | .began snapshot => w.Alive (calls i) ∧ w.Unheld (calls i) ∧
      snapshot.oldCredentialId (entryOf fold calls i) ≠ (calls i).credentialId
  | .lookedUp snapshot old => w.Alive (calls i) ∧ w.Unheld (calls i) ∧
      old ≠ (calls i).credentialId ∧ old = snapshot.oldCredentialId (entryOf fold calls i)
  | .registered old => w.Alive (calls i) ∧ w.Unheld (calls i) ∧
      old = w.catalog.oldCredentialId (entryOf fold calls i)
  | .failed old => w.Alive (calls i) ∧ w.Unheld (calls i) ∧ old ≠ (calls i).credentialId
  -- What it has displaced belongs to a call that is past its own commit.
  | .committed old => w.Accounted (calls i) ∧ old ≠ (calls i).credentialId ∧
      ∀ k, old = (calls k).credentialId → (w.phase k).Past ∧ w.Unheld (calls k)
  | .leaving | .finished => w.Accounted (calls i)

/-- The invariant of all calls together. -/
structure Consistent (fold : Bytes → Bytes) (calls : ι → InstallCall) (w : InstallWorld ι) :
    Prop where
  call : ∀ i, CallInv fold calls w i
  /-- A committed handle stands in the entry of its call. -/
  named : ∀ i entry, w.catalog.oldCredentialId entry = (calls i).credentialId →
    entry = entryOf fold calls i
  nonempty : ∀ i, w.phase i ≠ .waiting → (calls i).credentialId ≠ []
  /-- Two open transactions have not written one entry. -/
  exclusive : ∀ i j old old', w.phase i = .registered old → w.phase j = .registered old' →
    entryOf fold calls i = entryOf fold calls j → i = j

/-! ## Frames -/

section Frames

variable {w w' : InstallWorld ι} {i j : ι}

omit [DecidableEq ι] in
/-- What a step leaves of a call that it does not move. -/
theorem CallInv.frame (h : CallInv fold calls w j) (phase : w'.phase j = w.phase j)
    (unheld : ∀ k, k = j ∨ (w.phase k).Past → w.Unheld (calls k) → w'.Unheld (calls k))
    (entry : ∀ old, w.phase j = .registered old →
      w'.catalog.oldCredentialId (entryOf fold calls j)
        = w.catalog.oldCredentialId (entryOf fold calls j))
    (alive : ¬ (w.phase j).Past → w.Alive (calls j) → w'.Alive (calls j))
    (absent : w.Absent (calls j) → w'.Absent (calls j))
    (accounted : w.Accounted (calls j) → w'.Accounted (calls j))
    (past : ∀ k, (w.phase k).Past → (w'.phase k).Past) : CallInv fold calls w' j := by
  have unheld' : w.Unheld (calls j) → w'.Unheld (calls j) := unheld j (.inl rfl)
  unfold CallInv at h ⊢
  rw [phase]
  cases hphase : w.phase j with
  | waiting =>
      rw [hphase] at h
      exact ⟨absent h.1, unheld' h.2⟩
  | stored | locked =>
      rw [hphase] at h alive
      exact ⟨alive id h.1, unheld' h.2⟩
  | began _ | lookedUp _ _ | failed _ =>
      rw [hphase] at h alive
      exact ⟨alive id h.1, unheld' h.2.1, h.2.2⟩
  | registered old =>
      rw [hphase] at h alive
      exact ⟨alive id h.1, unheld' h.2.1, h.2.2.trans (entry old hphase).symm⟩
  | committed old =>
      rw [hphase] at h
      refine ⟨accounted h.1, h.2.1, fun k hk => ?_⟩
      obtain ⟨hpast, hunheld⟩ := h.2.2 k hk
      exact ⟨past k hpast, unheld k (.inr hpast) hunheld⟩
  | leaving | finished =>
      rw [hphase] at h
      exact accounted h

omit [DecidableEq ι] in
/-- The same when the catalog and the credential stay. -/
theorem CallInv.frame_registry (h : CallInv fold calls w j) (phase : w'.phase j = w.phase j)
    (catalog : w'.catalog = w.catalog)
    (alive : w.Alive (calls j) → w'.Alive (calls j))
    (absent : w.Absent (calls j) → w'.Absent (calls j))
    (pending : w.Pending (calls j) → w'.Absent (calls j) ∨ w'.Pending (calls j))
    (past : ∀ k, (w.phase k).Past → (w'.phase k).Past) : CallInv fold calls w' j := by
  have unheld (k : ι) (hk : w.Unheld (calls k)) : w'.Unheld (calls k) := by
    rw [InstallWorld.Unheld, catalog]
    exact hk
  have held (hj : w.Held (calls j)) : w'.Held (calls j) := by
    rw [InstallWorld.Held, catalog]
    exact hj
  apply h.frame phase (fun k _ => unheld k) (fun _ _ => by rw [catalog]) (fun _ => alive) absent
    ?_ past
  apply Or.imp (And.imp held alive)
  apply And.imp (unheld j)
  intro hgone
  exact hgone.elim (fun h => .inl (absent h)) pending

@[simp] theorem goto_phase_self (w : InstallWorld ι) (i : ι) (phase : InstallPhase) :
    (w.goto i phase).phase i = phase := Function.update_self ..

theorem goto_phase_of_ne (w : InstallWorld ι) (phase : InstallPhase) (h : j ≠ i) :
    (w.goto i phase).phase j = w.phase j := Function.update_of_ne h ..

/-- A call that goes on stays past its commit. -/
theorem past_goto {phase : InstallPhase} (hphase : (w.phase i).Past → phase.Past) (k : ι)
    (h : (w.phase k).Past) : ((w.goto i phase).phase k).Past := by
  by_cases hk : k = i
  · subst hk
    rw [goto_phase_self]
    exact hphase h
  · rw [goto_phase_of_ne w phase hk]
    exact h

/-- A call that has nothing to retire hides nothing by going on. -/
theorem pending_goto {phase : InstallPhase} {call : InstallCall}
    (hphase : ∀ old, w.phase i ≠ .committed old) (h : w.Pending call) :
    (w.goto i phase).Pending call := by
  obtain ⟨k, hk⟩ := h
  have hne : k ≠ i := fun heq => hphase _ (heq ▸ hk)
  exact ⟨k, (goto_phase_of_ne w phase hne).trans hk⟩

/-- A step of call `i`, from what it leaves of each call. -/
theorem Consistent.goto (h : Consistent fold calls w) {phase : InstallPhase}
    (phases : w'.phase = w.phase)
    (named : ∀ j entry, w'.catalog.oldCredentialId entry = (calls j).credentialId →
      entry = entryOf fold calls j)
    (nonempty : (calls i).credentialId ≠ [])
    (exclusive : ∀ old, phase = .registered old → ∀ k old', w.phase k = .registered old' →
      entryOf fold calls k ≠ entryOf fold calls i)
    (self : CallInv fold calls (w'.goto i phase) i)
    (others : ∀ j, j ≠ i → CallInv fold calls (w'.goto i phase) j) :
    Consistent fold calls (w'.goto i phase) where
  call j := by
    by_cases hj : j = i
    · rw [hj]
      exact self
    · exact others j hj
  named := named
  nonempty j hj := by
    by_cases hi : j = i
    · rw [hi]
      exact nonempty
    · rw [goto_phase_of_ne w' phase hi, phases] at hj
      exact h.nonempty j hj
  exclusive j k old old' hj hk hentry := by
    by_cases hji : j = i <;> by_cases hki : k = i
    · exact hji.trans hki.symm
    · rw [hji, goto_phase_self] at hj
      rw [goto_phase_of_ne w' phase hki, phases] at hk
      exact absurd (hji ▸ hentry.symm) (exclusive old hj k old' hk)
    · rw [hki, goto_phase_self] at hk
      rw [goto_phase_of_ne w' phase hji, phases] at hj
      exact absurd (hki ▸ hentry) (exclusive old' hk j old hj)
    · rw [goto_phase_of_ne w' phase hji, phases] at hj
      rw [goto_phase_of_ne w' phase hki, phases] at hk
      exact h.exclusive j k old old' hj hk hentry

/-- A step of call `i` before its commit that leaves the catalog and the
credentials of the others alone. -/
theorem Consistent.goto_early (h : Consistent fold calls w) {phase : InstallPhase}
    (phases : w'.phase = w.phase) (catalog : w'.catalog = w.catalog)
    (early : ¬ (w.phase i).Past) (nonempty : (calls i).credentialId ≠ [])
    (exclusive : ∀ old, phase = .registered old → ∀ k old', w.phase k = .registered old' →
      entryOf fold calls k ≠ entryOf fold calls i)
    (alive : ∀ j, j ≠ i → w.Alive (calls j) → w'.Alive (calls j))
    (absent : ∀ j, j ≠ i → w.Absent (calls j) → w'.Absent (calls j))
    (self : CallInv fold calls (w'.goto i phase) i) :
    Consistent fold calls (w'.goto i phase) := by
  have early' : ¬ (w'.phase i).Past := by rwa [phases]
  apply h.goto phases (fun j entry hj => h.named j entry (by rwa [← catalog])) nonempty
    exclusive self
  intro j hj
  apply (h.call j).frame_registry
  · rw [goto_phase_of_ne w' phase hj, phases]
  · exact catalog
  · exact alive j hj
  · exact absent j hj
  · intro hpending
    refine .inr (pending_goto (fun old hold => early' (hold ▸ trivial)) ?_)
    rwa [InstallWorld.Pending, phases]
  · intro k hk
    exact past_goto (fun hi => absurd hi early') k (by rwa [phases])

omit [DecidableEq ι] in
/-- A call on the registry that neither removes nor stores the credential of a
call, and drops only what has expired. -/
theorem onRegistry_frame {call : Call} {c : InstallCall}
    (keeps : call ≠ .removeCredential c.credentialId)
    (fresh : (exec call w.registry).outcome ≠ .ok (.credentialId c.credentialId))
    (time : ∀ reading, call.purgeTime = some reading → reading ≤ w.now) :
    (w.Alive c → (w.onRegistry call).Alive c) ∧ (w.Absent c → (w.onRegistry call).Absent c) := by
  refine ⟨fun halive hlive => ?_, fun habsent => absent_credential_exec habsent fresh⟩
  obtain ⟨credential, found, expires⟩ := halive hlive
  refine ⟨credential, unexpired_credential_exec found keeps fun reading hreading => ?_, expires⟩
  rw [expires]
  exact UInt64.lt_of_le_of_lt (time reading hreading) hlive

omit [DecidableEq ι] in
/-- Removing one credential does not touch those of the other calls. -/
theorem removeIf_alive {condition : Prop} [Decidable condition] {x : Bytes} {c : InstallCall}
    (hne : condition → x ≠ c.credentialId) (halive : w.Alive c) :
    (w.removeIf condition x).Alive c := by
  unfold InstallWorld.removeIf
  split
  · rename_i hcondition
    apply (onRegistry_frame ?_ ?_ ?_).1 halive
    · intro h
      exact hne hcondition (Call.removeCredential.inj h)
    · intro h
      cases h
    · intro _ h
      cases h
  · exact halive

omit [DecidableEq ι] in
@[simp] theorem removeIf_locks {condition : Prop} [Decidable condition] {x : Bytes} :
    (w.removeIf condition x).locks = w.locks := by
  unfold InstallWorld.removeIf
  split <;> rfl

omit [DecidableEq ι] in
@[simp] theorem removeIf_now {condition : Prop} [Decidable condition] {x : Bytes} :
    (w.removeIf condition x).now = w.now := by
  unfold InstallWorld.removeIf
  split <;> rfl

omit [DecidableEq ι] in
theorem removeIf_registry {condition : Prop} [Decidable condition] {x : Bytes} :
    (w.removeIf condition x).registry
      = if condition then (exec (.removeCredential x) w.registry).registry else w.registry := by
  unfold InstallWorld.removeIf
  split <;> rfl

omit [DecidableEq ι] in
theorem removeIf_absent {condition : Prop} [Decidable condition] {x : Bytes} {c : InstallCall}
    (habsent : w.Absent c) : (w.removeIf condition x).Absent c := by
  unfold InstallWorld.removeIf
  split
  · apply absent_credential_exec habsent
    intro h
    cases h
  · exact habsent

omit [DecidableEq ι] in
@[simp] theorem removeIf_phase {condition : Prop} [Decidable condition] {x : Bytes} :
    (w.removeIf condition x).phase = w.phase := by
  unfold InstallWorld.removeIf
  split <;> rfl

omit [DecidableEq ι] in
@[simp] theorem removeIf_catalog {condition : Prop} [Decidable condition] {x : Bytes} :
    (w.removeIf condition x).catalog = w.catalog := by
  unfold InstallWorld.removeIf
  split <;> rfl

omit [DecidableEq ι] in
/-- A removed credential is gone. -/
theorem removed_absent {condition : Prop} [Decidable condition] {c : InstallCall}
    (h : condition) : (w.removeIf condition c.credentialId).Absent c := by
  rw [InstallWorld.removeIf, if_pos h]
  exact Std.TreeMap.getElem?_erase_self

omit [DecidableEq ι] in
/-- Every phase but the first has a credential. -/
theorem Consistent.nonempty_of (h : Consistent fold calls w) {phase : InstallPhase}
    (hphase : w.phase i = phase) (started : phase ≠ .waiting) : (calls i).credentialId ≠ [] :=
  h.nonempty i (hphase ▸ started)

end Frames

/-! ## Steps -/

section Steps

variable {w : InstallWorld ι} {i : ι}

/-- A step that only moves a call which has not registered, to a phase before
its commit. -/
theorem Consistent.advance (h : Consistent fold calls w) {before phase : InstallPhase}
    (hbefore : w.phase i = before) (started : before ≠ .waiting) (early : ¬ before.Past)
    (fresh : ∀ old, phase ≠ .registered old)
    (self : CallInv fold calls (w.goto i phase) i) : Consistent fold calls (w.goto i phase) :=
  h.goto_early rfl rfl (hbefore ▸ early) (h.nonempty_of hbefore started)
    (fun old hold => absurd hold (fresh old)) (fun _ _ => id) (fun _ _ => id) self

/-- Storing a credential starts a call. -/
theorem consistent_store (distinct : ∀ i j, (calls i).credentialId = (calls j).credentialId → i = j)
    (h : Consistent fold calls w) {instanceUrl accessToken : Bytes} {now nowLocked : UInt64}
    {fill : Nat → Entropy} (phase : w.phase i = .waiting)
    (stored : (exec (.storeCredential instanceUrl accessToken (calls i).expiresAtMs now nowLocked
      fill) w.registry).outcome = .ok (.credentialId (calls i).credentialId))
    (time : nowLocked ≤ w.now) :
    Consistent fold calls ((w.onRegistry (.storeCredential instanceUrl accessToken
      (calls i).expiresAtMs now nowLocked fill)).goto i .stored) := by
  have hself := h.call i
  rw [CallInv, phase] at hself
  obtain ⟨-, hunheld⟩ := hself
  obtain ⟨_, _, _, _, _, _, hcall, hne, hcredential, -⟩ := stores_exec stored
  cases hcall
  have hframe (j : ι) (hj : j ≠ i) := @onRegistry_frame _ w
    (.storeCredential instanceUrl accessToken (calls i).expiresAtMs now nowLocked fill) (calls j)
    (fun h => by cases h)
    (fun hj' => hj (distinct j i
      (Reply.credentialId.inj (Except.ok.inj (hj'.symm.trans stored)))))
    (fun reading hreading => Option.some.inj hreading ▸ time)
  apply @Consistent.goto_early _ _ _ _ _ (w.onRegistry _) _ h _ rfl rfl
    (by rw [phase]; exact id) hne
    (fun old hold => by cases hold) (fun j hj => (hframe j hj).1) (fun j hj => (hframe j hj).2)
  rw [CallInv, goto_phase_self]
  exact ⟨fun _ => ⟨_, hcredential, rfl⟩, hunheld⟩

/-- Taking the lock. -/
theorem consistent_lock (h : Consistent fold calls w) (phase : w.phase i = .stored)
    (lock : Fin 64) : Consistent fold calls ((w.setLock lock (some i)).goto i .locked) := by
  have hself := h.call i
  rw [CallInv, phase] at hself
  apply @Consistent.goto_early _ _ _ _ _ (w.setLock lock (some i)) _ h _ rfl rfl
    (by rw [phase]; exact id)
    (h.nonempty_of phase (by simp)) (fun old hold => by cases hold) (fun _ _ => id) (fun _ _ => id)
  rw [CallInv, goto_phase_self]
  exact hself

/-- Letting the lock go. -/
theorem consistent_unlock (h : Consistent fold calls w) (phase : w.phase i = .leaving)
    (lock : Fin 64) : Consistent fold calls ((w.setLock lock none).goto i .finished) := by
  have hself := h.call i
  rw [CallInv, phase] at hself
  have hpending {c : InstallCall} (hc : w.Pending c) :
      ((w.setLock lock none).goto i .finished).Pending c :=
    pending_goto (w := w.setLock lock none) (fun old hold => by cases phase.symm.trans hold) hc
  apply @Consistent.goto _ _ _ _ _ (w.setLock lock none) _ h _ rfl h.named
    (h.nonempty_of phase (by simp))
    (fun old hold => by cases hold)
  · rw [CallInv, goto_phase_self]
    exact hself.imp id (And.imp id (Or.imp id hpending))
  · intro j hj
    apply (h.call j).frame_registry (goto_phase_of_ne (w.setLock lock none) _ hj) rfl id id
    · intro h
      exact .inr (hpending h)
    · exact past_goto (w := w.setLock lock none) fun _ => trivial

theorem consistent_begin (h : Consistent fold calls w) (phase : w.phase i = .locked) :
    Consistent fold calls (w.goto i (.began w.catalog)) := by
  have hself := h.call i
  rw [CallInv, phase] at hself
  apply h.advance phase (by simp) id (by simp)
  rw [CallInv, goto_phase_self]
  exact ⟨hself.1, hself.2, hself.2 _⟩

theorem consistent_beginThrows (h : Consistent fold calls w) (phase : w.phase i = .locked) :
    Consistent fold calls (w.goto i (.failed [])) := by
  have hself := h.call i
  rw [CallInv, phase] at hself
  apply h.advance phase (by simp) id (by simp)
  rw [CallInv, goto_phase_self]
  exact ⟨hself.1, hself.2, (h.nonempty_of phase (by simp)).symm⟩

theorem consistent_lookup (h : Consistent fold calls w) {snapshot : Catalog}
    (phase : w.phase i = .began snapshot) :
    Consistent fold calls
      (w.goto i (.lookedUp snapshot (snapshot.oldCredentialId (entryOf fold calls i)))) := by
  have hself := h.call i
  rw [CallInv, phase] at hself
  apply h.advance phase (by simp) id (by simp)
  rw [CallInv, goto_phase_self]
  exact ⟨hself.1, hself.2.1, hself.2.2, rfl⟩

theorem consistent_lookupThrows (h : Consistent fold calls w) {snapshot : Catalog}
    (phase : w.phase i = .began snapshot) : Consistent fold calls (w.goto i (.failed [])) := by
  have hself := h.call i
  rw [CallInv, phase] at hself
  apply h.advance phase (by simp) id (by simp)
  rw [CallInv, goto_phase_self]
  exact ⟨hself.1, hself.2.1, (h.nonempty_of phase (by simp)).symm⟩

/-- Without a conflict the handle that was looked up is the committed one. -/
theorem consistent_register (h : Consistent fold calls w) {snapshot : Catalog} {old : Bytes}
    (phase : w.phase i = .lookedUp snapshot old) (free : NoConflict fold calls w i snapshot) :
    Consistent fold calls (w.goto i (.registered old)) := by
  have hself := h.call i
  rw [CallInv, phase] at hself
  obtain ⟨halive, hunheld, -, hold⟩ := hself
  apply h.goto_early rfl rfl (by rw [phase]; exact id) (h.nonempty_of phase (by simp))
    (fun _ _ => free.2) (fun _ _ => id) (fun _ _ => id)
  rw [CallInv, goto_phase_self]
  refine ⟨halive, hunheld, ?_⟩
  rw [hold, Catalog.oldCredentialId, ← free.1]
  rfl

theorem consistent_registerThrows (h : Consistent fold calls w) {snapshot : Catalog} {old : Bytes}
    (phase : w.phase i = .lookedUp snapshot old) :
    Consistent fold calls (w.goto i (.failed old)) := by
  have hself := h.call i
  rw [CallInv, phase] at hself
  apply h.advance phase (by simp) id (by simp)
  rw [CallInv, goto_phase_self]
  exact ⟨hself.1, hself.2.1, hself.2.2.1⟩

theorem consistent_commitThrows (h : Consistent fold calls w) {old : Bytes}
    (phase : w.phase i = .registered old) : Consistent fold calls (w.goto i (.failed old)) := by
  have hself := h.call i
  rw [CallInv, phase] at hself
  apply h.advance phase (by simp) id (by simp)
  rw [CallInv, goto_phase_self]
  exact ⟨hself.1, hself.2.1, hself.2.2 ▸ hself.2.1 _⟩

/-- The handler takes the credential back. -/
theorem consistent_takeBack
    (distinct : ∀ i j, (calls i).credentialId = (calls j).credentialId → i = j)
    (h : Consistent fold calls w) {old : Bytes} (phase : w.phase i = .failed old) :
    Consistent fold calls
      ((w.removeIf ((calls i).credentialId ≠ old) (calls i).credentialId).goto i .leaving) := by
  have hself := h.call i
  rw [CallInv, phase] at hself
  obtain ⟨-, hunheld, hne⟩ := hself
  apply h.goto_early removeIf_phase removeIf_catalog (by rw [phase]; exact id)
    (h.nonempty_of phase (by simp)) (fun old hold => by cases hold)
    (fun j hj => removeIf_alive fun _ heq => hj (distinct j i heq.symm))
    (fun _ _ => removeIf_absent)
  rw [CallInv, goto_phase_self]
  refine .inr ⟨?_, .inl (removed_absent hne.symm)⟩
  intro entry
  show (w.removeIf _ _).catalog.oldCredentialId entry ≠ _
  rw [removeIf_catalog]
  exact hunheld entry

omit [DecidableEq ι] in
/-- The catalog after a commit. -/
theorem commit_oldCredentialId (entry credentialId other : Bytes) :
    (w.commit entry credentialId).catalog.oldCredentialId other
      = if other = entry then credentialId else w.catalog.oldCredentialId other := by
  unfold InstallWorld.commit Catalog.oldCredentialId
  by_cases h : other = entry
  · subst h
    simp [sessionData360Secret]
  · simp [h]

omit [DecidableEq ι] in
/-- A commit installs no handle but its own. -/
theorem unheld_commit {entry credentialId : Bytes} {c : InstallCall}
    (hid : credentialId ≠ c.credentialId) (h : w.Unheld c) :
    (w.commit entry credentialId).Unheld c := by
  intro other
  rw [commit_oldCredentialId]
  split
  · exact hid
  · exact h other

omit [DecidableEq ι] in
/-- The handle that a commit displaces is nowhere else. -/
theorem unheld_of_displaced (h : Consistent fold calls w) {entry credentialId : Bytes} {j : ι}
    (hid : credentialId ≠ (calls j).credentialId)
    (hentry : w.catalog.oldCredentialId entry = (calls j).credentialId) :
    (w.commit entry credentialId).Unheld (calls j) := by
  intro other
  rw [commit_oldCredentialId]
  split
  · exact hid
  · rename_i hother
    intro hheld
    exact hother ((h.named j other hheld).trans (h.named j entry hentry).symm)

omit [DecidableEq ι] in
/-- Before its commit no secret holds the handle of a call. -/
theorem CallInv.unheld_of_early {j : ι} (h : CallInv fold calls w j) (early : ¬ (w.phase j).Past) :
    w.Unheld (calls j) := by
  unfold CallInv at h
  cases hphase : w.phase j with
  | waiting | stored | locked =>
      rw [hphase] at h
      exact h.2
  | began _ | lookedUp _ _ | registered _ | failed _ =>
      rw [hphase] at h
      exact h.2.1
  | committed _ | leaving | finished =>
      rw [hphase] at early
      exact absurd trivial early

/-- A commit displaces the handle of its entry, if a call has put it there, and
leaves the others where they are. -/
theorem accounted_commit (h : Consistent fold calls w) {old : Bytes}
    (phase : w.phase i = .registered old)
    (hold : old = w.catalog.oldCredentialId (entryOf fold calls i)) {j : ι}
    (hid : (calls i).credentialId ≠ (calls j).credentialId) (haccounted : w.Accounted (calls j)) :
    ((w.commit (entryOf fold calls i) (calls i).credentialId).goto i (.committed old)).Accounted
      (calls j) := by
  obtain ⟨⟨entry, hentry⟩, halive⟩ | ⟨hunheld, hgone⟩ := haccounted
  · by_cases hmine : entry = entryOf fold calls i
    · rw [hmine] at hentry
      refine .inr ⟨unheld_of_displaced h hid hentry, .inr ⟨i, ?_⟩⟩
      rw [goto_phase_self, hold, hentry]
    · refine .inl ⟨⟨entry, ?_⟩, halive⟩
      show (w.commit _ _).catalog.oldCredentialId entry = _
      rw [commit_oldCredentialId, if_neg hmine]
      exact hentry
  · refine .inr ⟨unheld_commit hid hunheld, hgone.imp id ?_⟩
    exact pending_goto (w := w.commit _ _) (fun old hold => by cases phase.symm.trans hold)

/-- The commit. -/
theorem consistent_commit
    (distinct : ∀ i j, (calls i).credentialId = (calls j).credentialId → i = j)
    (h : Consistent fold calls w) {old : Bytes} (phase : w.phase i = .registered old) :
    Consistent fold calls
      ((w.commit (entryOf fold calls i) (calls i).credentialId).goto i (.committed old)) := by
  have hself := h.call i
  rw [CallInv, phase] at hself
  obtain ⟨halive, hunheld, hold⟩ := hself
  have hne : old ≠ (calls i).credentialId := hold ▸ hunheld _
  have hid {j : ι} (hj : j ≠ i) : (calls i).credentialId ≠ (calls j).credentialId :=
    fun heq => hj (distinct j i heq.symm)
  have past (k : ι) (hk : (w.phase k).Past) : (((w.commit (entryOf fold calls i)
      (calls i).credentialId).goto i (.committed old)).phase k).Past :=
    @past_goto _ _ (w.commit _ _) _ (.committed old) (fun _ => trivial) k hk
  apply @Consistent.goto _ _ _ _ _ (w.commit _ _) _ h _ rfl ?_ (h.nonempty_of phase (by simp))
    (fun old hold => by cases hold)
  · rw [CallInv, goto_phase_self]
    refine ⟨.inl ⟨⟨entryOf fold calls i, ?_⟩, halive⟩, hne, fun k hk => ?_⟩
    · show (w.commit _ _).catalog.oldCredentialId _ = _
      rw [commit_oldCredentialId, if_pos rfl]
    · have hki : k ≠ i := fun heq => hne (heq ▸ hk)
      have hentry : w.catalog.oldCredentialId (entryOf fold calls i) = (calls k).credentialId :=
        hold.symm.trans hk
      refine ⟨past k ?_, unheld_of_displaced h (hid hki) hentry⟩
      -- before its commit it could not have been displaced
      by_contra hearly
      exact (h.call k).unheld_of_early hearly _ hentry
  · intro j hj
    apply (h.call j).frame (goto_phase_of_ne (w.commit _ _) _ hj)
    · intro k hk
      apply unheld_commit
      apply hid
      rintro rfl
      obtain hk | hk := hk
      · exact hj hk.symm
      · rw [phase] at hk
        exact hk
    · intro old' hj'
      show (w.commit _ _).catalog.oldCredentialId _ = _
      rw [commit_oldCredentialId, if_neg fun heq => hj (h.exclusive j i old' old hj' phase heq)]
    · exact fun _ => id
    · exact id
    · exact accounted_commit h phase hold (hid hj)
    · exact past
  · intro j entry hj
    rw [commit_oldCredentialId] at hj
    split at hj
    · rename_i hentry
      rw [hentry, distinct i j hj]
    · exact h.named j entry hj

/-- Retiring the displaced credential. -/
theorem consistent_retire (h : Consistent fold calls w) {old : Bytes}
    (phase : w.phase i = .committed old) :
    Consistent fold calls
      ((w.removeIf (old ≠ [] ∧ old ≠ (calls i).credentialId) old).goto i .leaving) := by
  have hself := h.call i
  rw [CallInv, phase] at hself
  obtain ⟨haccounted, hne, hdisplaced⟩ := hself
  set w' := w.removeIf (old ≠ [] ∧ old ≠ (calls i).credentialId) old with hw'
  have hcatalog : (w'.goto i .leaving).catalog = w.catalog := removeIf_catalog
  have hunheld {c : InstallCall} (hc : w.Unheld c) : (w'.goto i .leaving).Unheld c := by
    rw [InstallWorld.Unheld, hcatalog]
    exact hc
  have haccounts (j : ι) (hj : w.Accounted (calls j)) :
      (w'.goto i .leaving).Accounted (calls j) := by
    by_cases hold : old = (calls j).credentialId
    · obtain ⟨hpast, hj⟩ := hdisplaced j hold
      have hfull : old ≠ [] := by
        rw [hold]
        exact h.nonempty j fun heq => by rw [heq] at hpast; exact hpast
      refine .inr ⟨hunheld hj, .inl ?_⟩
      have habsent := removed_absent (w := w) (c := calls j) (hold ▸ ⟨hfull, hne⟩ :
        (calls j).credentialId ≠ [] ∧ (calls j).credentialId ≠ (calls i).credentialId)
      rw [hw', hold]
      exact habsent
    · refine hj.imp (And.imp (fun hheld => ?_) (removeIf_alive fun _ => hold))
        (And.imp hunheld (Or.imp removeIf_absent fun hpending => ?_))
      · rw [InstallWorld.Held, hcatalog]
        exact hheld
      · obtain ⟨k, hk⟩ := hpending
        have hki : k ≠ i := by
          rintro rfl
          exact hold (InstallPhase.committed.inj (phase.symm.trans hk))
        refine ⟨k, ?_⟩
        rw [goto_phase_of_ne w' _ hki, hw', removeIf_phase]
        exact hk
  apply h.goto removeIf_phase ?_ (h.nonempty_of phase (by simp)) (fun old hold => by cases hold)
  · rw [CallInv, goto_phase_self]
    exact haccounts i haccounted
  · intro j hj
    apply (h.call j).frame
    · rw [goto_phase_of_ne w' _ hj, hw', removeIf_phase]
    · exact fun _ _ => hunheld
    · intro _ _
      rw [hcatalog]
    · intro hearly
      exact removeIf_alive fun _ heq => hearly (hdisplaced j heq).1
    · exact removeIf_absent
    · exact haccounts j
    · intro k hk
      have hk' : (w'.phase k).Past := by rwa [hw', removeIf_phase]
      exact @past_goto _ _ w' _ .leaving (fun _ => trivial) k hk'
  · intro j entry hj
    exact h.named j entry (hcatalog ▸ hj)

omit [DecidableEq ι] in
/-- Other calls on the registry, and the clock. -/
theorem consistent_frame {w' : InstallWorld ι} (h : Consistent fold calls w)
    (phases : w'.phase = w.phase) (catalog : w'.catalog = w.catalog)
    (alive : ∀ j, w.Alive (calls j) → w'.Alive (calls j))
    (absent : ∀ j, w.Absent (calls j) → w'.Absent (calls j)) : Consistent fold calls w' where
  call j := by
    apply (h.call j).frame_registry (congrFun phases j) catalog (alive j) (absent j)
    · intro hpending
      rw [InstallWorld.Pending, phases]
      exact .inr hpending
    · intro k hk
      rwa [phases]
  named j entry hj := h.named j entry (catalog ▸ hj)
  nonempty j hj := h.nonempty j (phases ▸ hj)
  exclusive i j old old' hi hj := h.exclusive i j old old' (phases ▸ hi) (phases ▸ hj)

/-- One step keeps the invariant. -/
theorem consistent_step (distinct : ∀ i j, (calls i).credentialId = (calls j).credentialId → i = j)
    {w w' : InstallWorld ι} (h : Consistent fold calls w)
    (step : InstallStep hash fold calls w w') :
    Consistent fold calls w' := by
  cases step with
  | store i _ _ _ _ _ phase stored time => exact consistent_store distinct h phase stored time
  | lock i phase _ => exact consistent_lock h phase _
  | begin i phase => exact consistent_begin h phase
  | beginThrows i phase => exact consistent_beginThrows h phase
  | lookup i _ phase => exact consistent_lookup h phase
  | lookupThrows i _ phase => exact consistent_lookupThrows h phase
  | register i _ _ phase free => exact consistent_register h phase free
  | registerThrows i _ _ phase => exact consistent_registerThrows h phase
  | commit i _ phase => exact consistent_commit distinct h phase
  | commitThrows i _ phase => exact consistent_commitThrows h phase
  | takeBack i _ phase => exact consistent_takeBack distinct h phase
  | retire i _ phase => exact consistent_retire h phase
  | unlock i phase => exact consistent_unlock h phase _
  | other call keeps fresh time =>
      have hframe (j : ι) := onRegistry_frame (c := calls j) (keeps j) (fresh j) time
      exact consistent_frame h rfl rfl (fun j => (hframe j).1) fun j => (hframe j).2
  | tick now later =>
      refine @consistent_frame _ _ _ _ { w with now } h rfl rfl (fun j halive hlive => ?_)
        fun _ => id
      exact halive (UInt64.lt_of_le_of_lt later hlive)

omit [DecidableEq ι] in
/-- Before the calls the invariant holds. -/
theorem consistent_start {w : InstallWorld ι} (h : InstallStart calls w) :
    Consistent fold calls w where
  call i := by
    rw [CallInv, h.waiting i]
    exact ⟨h.absent i, h.unheld i⟩
  named i entry hentry := absurd hentry (h.unheld i entry)
  nonempty i hi := absurd (h.waiting i) hi
  exclusive i j old _ hi := by cases (h.waiting i).symm.trans hi

/-- Any interleaving keeps the invariant. -/
theorem consistent_run (distinct : ∀ i j, (calls i).credentialId = (calls j).credentialId → i = j)
    {start w : InstallWorld ι} (h : Consistent fold calls start)
    (run : Relation.ReflTransGen (InstallStep hash fold calls) start w) :
    Consistent fold calls w := by
  induction run with
  | refl => exact h
  | tail _ step ih => exact consistent_step distinct ih step

end Steps

/-! ## What the calls leave -/

/-- When all calls have finished, the credentials that have not expired are
those whose handles the catalog holds; and a handle that it does not hold has no
credential at all. -/
theorem installs_leave_handles
    (distinct : ∀ i j, (calls i).credentialId = (calls j).credentialId → i = j)
    {start w : InstallWorld ι} (begins : InstallStart calls start)
    (run : Relation.ReflTransGen (InstallStep hash fold calls) start w)
    (ended : ∀ i, w.phase i = .finished) (i : ι) :
    (w.now < (calls i).expiresAtMs → (w.Present (calls i) ↔ w.Held (calls i))) ∧
      (w.Unheld (calls i) → w.Absent (calls i)) := by
  have hcall := (consistent_run distinct (consistent_start begins) run).call i
  rw [CallInv, ended i] at hcall
  obtain ⟨hheld, halive⟩ | ⟨hunheld, hgone⟩ := hcall
  · refine ⟨fun hlive => ⟨fun _ => hheld, fun _ => halive hlive⟩, fun hunheld => ?_⟩
    obtain ⟨entry, hentry⟩ := hheld
    exact absurd hentry (hunheld entry)
  · have habsent : w.Absent (calls i) := by
      refine hgone.resolve_right fun ⟨k, hk⟩ => ?_
      cases (ended k).symm.trans hk
    refine ⟨fun _ => ⟨fun ⟨credential, hfound, _⟩ => ?_, fun ⟨entry, hentry⟩ => ?_⟩,
      fun _ => habsent⟩
    · cases (show w.registry.credentials[_]? = none from habsent).symm.trans hfound
    · exact absurd hentry (hunheld entry)

/-- A call that nobody disturbs installs its secret and retires the credential
that it displaces. -/
theorem undisturbed_install {w : InstallWorld ι} {i : ι} {instanceUrl accessToken : Bytes}
    {now nowLocked : UInt64} {fill : Nat → Entropy} (phase : w.phase i = .waiting)
    (stored : (exec (.storeCredential instanceUrl accessToken (calls i).expiresAtMs now nowLocked
      fill) w.registry).outcome = .ok (.credentialId (calls i).credentialId))
    (time : nowLocked ≤ w.now) (free : w.locks (lockOf hash calls i) = none)
    (alone : ∀ k old, w.phase k ≠ .registered old) :
    ∃ w', Relation.ReflTransGen (InstallStep hash fold calls) w w' ∧
      w'.phase = Function.update w.phase i .finished ∧ w'.locks = w.locks ∧ w'.now = w.now ∧
      w'.catalog = (w.commit (entryOf fold calls i) (calls i).credentialId).catalog ∧
      w'.registry = ((w.onRegistry (.storeCredential instanceUrl accessToken
        (calls i).expiresAtMs now nowLocked fill)).removeIf
          (w.catalog.oldCredentialId (entryOf fold calls i) ≠ [] ∧
            w.catalog.oldCredentialId (entryOf fold calls i) ≠ (calls i).credentialId)
          (w.catalog.oldCredentialId (entryOf fold calls i))).registry := by
  refine ⟨_, Relation.ReflTransGen.refl
    |>.tail (InstallStep.store w i instanceUrl accessToken now nowLocked fill phase stored time)
    |>.tail (InstallStep.lock _ i (goto_phase_self ..) free)
    |>.tail (InstallStep.begin _ i (goto_phase_self ..))
    |>.tail (InstallStep.lookup _ i _ (goto_phase_self ..))
    |>.tail (InstallStep.register _ i _ _ (goto_phase_self ..) ⟨rfl, ?_⟩)
    |>.tail (InstallStep.commit _ i _ (goto_phase_self ..))
    |>.tail (InstallStep.retire _ i _ (goto_phase_self ..))
    |>.tail (InstallStep.unlock _ i (goto_phase_self ..)), ?_, ?_, ?_, ?_, ?_⟩
  · intro k old hk
    by_cases hki : k = i
    · rw [hki, goto_phase_self] at hk
      cases hk
    · simp only [InstallWorld.goto, InstallWorld.setLock, InstallWorld.onRegistry,
        Function.update_of_ne hki] at hk
      exact absurd hk (alone k old)
  · simp [InstallWorld.goto, InstallWorld.setLock, InstallWorld.onRegistry, InstallWorld.commit]
  · simp [InstallWorld.goto, InstallWorld.setLock, InstallWorld.onRegistry,
      InstallWorld.commit, ← free]
  · simp [InstallWorld.goto, InstallWorld.setLock, InstallWorld.onRegistry, InstallWorld.commit]
  · simp [InstallWorld.goto, InstallWorld.setLock, InstallWorld.onRegistry, InstallWorld.commit]
  · simp [InstallWorld.goto, InstallWorld.setLock, InstallWorld.onRegistry, InstallWorld.commit,
      removeIf_registry]

/-- Two logins for one secret, in two spellings. -/
def spelledCalls : Bool → InstallCall
  | false => ⟨ascii "Login", generateOpaqueId (Vector.replicate 16 1), 90⟩
  | true => ⟨ascii "login", generateOpaqueId (Vector.replicate 16 2), 90⟩

def emptyInstall : InstallWorld Bool where
  registry := {}
  catalog _ := none
  locks _ := none
  phase _ := .waiting
  now := 10

/-- The second login displaces the first one. -/
theorem spelled_installs_leave_handles :
    ∃ w, Relation.ReflTransGen (InstallStep (fun name => name.length.toUInt64) (List.map toLower)
        spelledCalls) emptyInstall w ∧
      w.registry.credentials.size = 1 ∧
      ∀ i, (w.now < (spelledCalls i).expiresAtMs →
          (w.Present (spelledCalls i) ↔ w.Held (spelledCalls i))) ∧
        (w.Unheld (spelledCalls i) → w.Absent (spelledCalls i)) := by
  have distinct (i j : Bool)
      (h : (spelledCalls i).credentialId = (spelledCalls j).credentialId) : i = j := by
    revert h
    cases i <;> cases j <;> decide +kernel
  have begins : InstallStart spelledCalls emptyInstall := by
    refine ⟨fun _ => rfl, fun _ => rfl, fun _ => Std.TreeMap.getElem?_emptyc, fun i entry h => ?_⟩
    have hne : (spelledCalls i).credentialId ≠ [] := by cases i <;> decide +kernel
    exact hne h.symm
  obtain ⟨v, first, hphase, hlocks, hnow, hcatalog, hregistry⟩ := @undisturbed_install
    Bool _ (fun name => name.length.toUInt64) (List.map toLower) spelledCalls emptyInstall false
    (ascii "https://t.c360a.salesforce.com") (ascii "token") 10 10
    (fun _ => some (Vector.replicate 16 1)) rfl (by decide +kernel) (by decide) rfl
    (fun _ _ h => by cases h)
  obtain ⟨w, second, hphase', hlocks', hnow', hcatalog', hregistry'⟩ := @undisturbed_install
    Bool _ (fun name => name.length.toUInt64) (List.map toLower) spelledCalls v true
    (ascii "https://t.c360a.salesforce.com") (ascii "token") 10 10
    (fun _ => some (Vector.replicate 16 2)) (by rw [hphase]; rfl)
    (by rw [hregistry]; decide +kernel) (by rw [hnow]; decide) (by rw [hlocks]; rfl)
    (fun k _ h => by rw [hphase] at h; cases k <;> cases h)
  have ended (i : Bool) : w.phase i = .finished := by
    rw [hphase', hphase]
    cases i <;> rfl
  refine ⟨w, first.trans second, ?_,
    installs_leave_handles distinct begins (first.trans second) ended⟩
  rw [hregistry', removeIf_registry, hcatalog, InstallWorld.onRegistry, hregistry]
  dsimp only
  decide +kernel

end Data360