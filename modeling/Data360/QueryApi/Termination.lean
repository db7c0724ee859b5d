import Mathlib.Algebra.Order.Floor.Div
import Data360.QueryApi.Accounting

/-!
# How many requests a query takes

Neither of the two loops of `Execute` counts its turns.  The polls are limited
by the time that passes in the pauses between them, and the chunks by what
`Accept` counts.

* `Paced` is what is asked of the clock and the pauses, and `Polling` how much
  time has passed after so many of them.
* `Counts` compares the requests of a session that hands out chunks with its
  counters.
* `execute_terminates` is the result.
-/

namespace Data360

open Lib Lib.ByteString Lib.Prog Lib.Quota Session

variable {env : QueryEnv} {options : QueryOptions}

/-! ## The clock -/

/-- The clock never goes back, and a pause that returns lets its time pass or
leaves the query cancelled. -/
structure Paced (log : List QueryEvent) : Prop where
  forward : (readings log).Pairwise (· ≤ ·)
  pauses : ∀ past milliseconds rest, log = past ++ .sleepMs milliseconds true :: rest →
    rest.head? ≠ some (.isCancelled (some false)) ∨
      ∀ before ∈ readings past, ∀ after ∈ readings rest,
        before.toNat + milliseconds.toNat ≤ after.toNat

theorem readings_append (left right : List QueryEvent) :
    readings (left ++ right) = readings left ++ readings right := List.filterMap_append

theorem Paced.past {log more : List QueryEvent} (h : Paced (log ++ more)) : Paced log := by
  refine ⟨?_, fun past milliseconds rest hlog => ?_⟩
  · have hforward := h.forward
    rw [readings_append] at hforward
    exact (List.pairwise_append.mp hforward).1
  · have hpause := h.pauses past milliseconds (rest ++ more) (by rw [hlog]; simp)
    rcases hpause with hhead | htime
    · left
      cases rest with
      | nil => simp
      | cons e rest => exact hhead
    · right
      intro before hbefore after hafter
      refine htime before hbefore after ?_
      rw [readings_append]
      exact List.mem_append_left _ hafter

/-- The pauses of a log that follows the readings `seen` let their time pass. -/
def pausesPass (seen : List UInt64) : List QueryEvent → Bool
  | [] => true
  | .sleepMs milliseconds true :: rest =>
      (seen.all fun before => (readings rest).all fun after =>
        before.toNat + milliseconds.toNat ≤ after.toNat) && pausesPass seen rest
  | e :: rest => pausesPass (seen ++ readings [e]) rest

theorem pausesPass_spec (seen : List UInt64) (log : List QueryEvent)
    (h : pausesPass seen log = true) (past : List QueryEvent) (milliseconds : UInt64)
    (rest : List QueryEvent) (hlog : log = past ++ .sleepMs milliseconds true :: rest) :
    ∀ before ∈ seen ++ readings past, ∀ after ∈ readings rest,
      before.toNat + milliseconds.toNat ≤ after.toNat := by
  fun_induction pausesPass seen log generalizing past with
  | case1 => simp at hlog
  | case2 seen ms tail ih =>
      rw [Bool.and_eq_true] at h
      cases past with
      | nil =>
          cases hlog
          intro before hbefore after hafter
          rw [readings, List.filterMap_nil, List.append_nil] at hbefore
          exact of_decide_eq_true (List.all_eq_true.mp (List.all_eq_true.mp h.1 before hbefore)
            after hafter)
      | cons e past =>
          obtain ⟨rfl, htail⟩ := List.cons.inj hlog
          exact ih h.2 past htail
  | case3 seen e tail hother ih =>
      cases past with
      | nil => exact absurd (List.cons.inj hlog).1 (hother milliseconds)
      | cons e' past =>
          obtain ⟨rfl, htail⟩ := List.cons.inj hlog
          have happend := ih h past htail
          rwa [List.append_assoc, ← readings_append] at happend

/-- A log with these properties is paced. -/
theorem paced_of_pausesPass {log : List QueryEvent} (hforward : (readings log).Pairwise (· ≤ ·))
    (hpauses : pausesPass [] log = true) : Paced log :=
  ⟨hforward, fun past milliseconds rest hlog =>
    .inr (pausesPass_spec [] log hpauses past milliseconds rest hlog)⟩

/-- On a paced clock no reading is before the first one. -/
theorem Paced.start_le {log : List QueryEvent} (h : Paced log) {started : UInt64}
    (hstart : (readings log).head? = some started) : ∀ now ∈ readings log, started ≤ now := by
  have hforward := h.forward
  intro now hnow
  cases hreadings : readings log with
  | nil =>
      rw [hreadings] at hnow
      cases hnow
  | cons first rest =>
      rw [hreadings] at hforward hnow hstart
      cases hstart
      rcases List.mem_cons.mp hnow with rfl | hnow
      · exact UInt64.le_refl _
      · exact (List.pairwise_cons.mp hforward).1 now hnow

/-! ## One request -/

/-- A property of logs that everything but a request keeps. -/
def Silent (L : List QueryEvent → Prop) : Prop :=
  ∀ log e, sends [e] = [] → L log → L (log ++ [e])

theorem Silent.idle {L : List QueryEvent → Prop} (h : Silent L) : Idle L :=
  ⟨fun hlog hquiet => h _ _ (sends_quiet hquiet) hlog, fun hlog _ => h _ _ rfl hlog⟩

theorem Silent.append {L : List QueryEvent → Prop} (h : Silent L) {log more : List QueryEvent}
    (hmore : sends more = []) (hlog : L log) : L (log ++ more) := by
  induction more using List.reverseRec with
  | nil => rwa [List.append_nil]
  | append_singleton more e ih =>
      rw [sends_append, List.append_eq_nil_iff] at hmore
      rw [← List.append_assoc]
      exact h _ e hmore.2 (ih hmore.1)

section Once

variable {L L' : List QueryEvent → Prop} {P : Session → Prop} {c : Client}

/-- `Send` sends one request at most, and one when it returns. -/
theorem wp_send_once (hL : Silent L) (hL' : Silent L')
    (hsend : ∀ log r answer, L log → L' (log ++ [.send r answer]))
    (hP : ∀ s s', P s → Sent s s' → P s') (h : Ongoing L P c) :
    wp (send env) (fun _ => Ongoing L' P) (fun _ c' => Ongoing L P c' ∨ Ongoing L' P c')
      (fun _ => False) c := by
  have hlooks : Looks L := ⟨fun h => hL _ _ rfl h, fun h => hL _ _ rfl h⟩
  refine wp_mono (wp_send_log hlooks hP h) ?_ ?_ fun _ h => h
  · intro response c' h'
    obtain ⟨hsession, log, hlog, hsent⟩ := h'
    exact ⟨hsent ▸ hsend log _ _ hlog, hsession⟩
  · intro _ c' h'
    obtain ⟨hlog, hsession⟩ := h'
    generalize hlast : c'.log = log at hlog
    cases hlog with
    | unsent before => exact .inl ⟨hlast ▸ before, hsession⟩
    | refused before => exact .inr ⟨hlast ▸ hsend _ _ _ before, hsession⟩
    | @failed log tail r before silent =>
        refine .inr ⟨?_, hsession⟩
        rw [hlast, List.append_cons]
        exact hL'.append silent (hsend _ _ _ before)

/-- A response that is fetched and decoded costs one request. -/
theorem wp_fetch_once (hL : Silent L) (hL' : Silent L')
    (hsend : ∀ log r answer, L log → L' (log ++ [.send r answer]))
    (hP : ∀ s s', P s → Sent s s' → P s') (h : Ongoing L P c) :
    wp (do
        let response ← send env
        decode env response)
      (fun _ => Ongoing L' P) (fun _ c' => Ongoing L P c' ∨ Ongoing L' P c')
      (fun _ => False) c := by
  rw [wp_bind]
  refine wp_mono (wp_send_once hL hL' hsend hP h) (fun response c₁ h₁ => ?_) (fun _ _ h => h)
    fun _ h => h
  have hdecode : Keeps (Ongoing L' P) (decode env response) := keeps_decode hL'.idle response
  exact wp_mono (hdecode.total (total_decode response) h₁) (fun _ _ h => h) (fun _ _ h => .inr h)
    fun _ h => h

/-- `exchange` costs one request. -/
theorem wp_exchange_once (hL : Silent L) (hL' : Silent L')
    (hsend : ∀ log r answer, L log → L' (log ++ [.send r answer]))
    (hP : ∀ s s', P s → Sent s s' → P s') (hid : ∀ s id, P s → P { s with queryId := id })
    (h : Ongoing L P c) :
    wp (QueryApiV3Client.exchange env) (fun _ => Ongoing L' P)
      (fun _ c' => Ongoing L P c' ∨ Ongoing L' P c') (fun _ => False) c := by
  have hfetch := @wp_fetch_once env _ _ _ _ hL hL' hsend hP h
  rw [wp_bind] at hfetch
  rw [QueryApiV3Client.exchange, wp_bind]
  refine wp_mono hfetch (fun response c₁ h₁ => ?_) (fun _ _ h => h) fun _ h => h
  rw [wp_bind]
  refine wp_mono h₁ (fun decoded c₂ h₂ => ?_) (fun _ _ h => h) fun _ h => h
  apply wp_bind_of_keeps (keeps_remember hid decoded) (total_rememberQueryId decoded) h₂ ?_
    fun _ _ h => .inr h
  intro _ c₃ h₃
  apply wp_bind_of_keeps (keeps_checkActive hL'.idle) total_checkActive h₃ ?_ fun _ _ h => .inr h
  exact fun _ _ h => h

end Once

/-! ## The polls -/

/-- After `pauses` pauses of the session and `count` requests. -/
structure Polling (setting : Setting) (pauses count : Nat) (log : List QueryEvent) : Prop where
  starts : (readings log).head? = some setting.startedAtMs
  count : (sends log).length = count
  passed : Paced log → ∃ now ∈ readings log,
    setting.startedAtMs.toNat + pauses * setting.options.pollIntervalMs.toNat ≤ now.toNat ∧
      now.toNat < setting.startedAtMs.toNat + setting.options.overallTimeoutMs.toNat

/-- The pauses that fit in the time of a query. -/
def QueryOptions.intervals (options : QueryOptions) : Nat :=
  options.overallTimeoutMs.toNat ⌈/⌉ options.pollIntervalMs.toNat

/-- On a paced clock there are at most `n` requests. -/
def Within (n : Nat) (log : List QueryEvent) : Prop := Paced log → (sends log).length ≤ n

namespace Polling

variable {setting : Setting} {pauses count : Nat} {log : List QueryEvent}

theorem append (h : Polling setting pauses count log) (more : List QueryEvent) :
    Polling setting pauses (count + (sends more).length) (log ++ more) where
  starts := by rw [readings_append, List.head?_append, h.starts]; rfl
  count := by rw [sends_append, List.length_append, h.count]
  passed paced := by
    obtain ⟨now, hnow, htime⟩ := h.passed paced.past
    rw [readings_append]
    exact ⟨now, List.mem_append_left _ hnow, htime⟩

theorem silent (setting : Setting) (pauses count : Nat) :
    Silent (Polling setting pauses count) := by
  intro log e he h
  have happend := h.append [e]
  rw [he] at happend
  exact happend

theorem send (log : List QueryEvent) (r : HttpRequest) (answer : Option HttpResponse)
    (h : Polling setting pauses count log) :
    Polling setting pauses (count + 1) (log ++ [.send r answer]) := h.append [.send r answer]

/-- A pause after which the query is active. -/
theorem pause (h : Polling setting pauses count log) {now : UInt64}
    (hactive : now - setting.startedAtMs < setting.options.overallTimeoutMs) :
    Polling setting (pauses + 1) count
      (log ++ [.sleepMs setting.options.pollIntervalMs true, .isCancelled (some false),
        .nowMs (some now)]) := by
  have happend := h.append [.sleepMs setting.options.pollIntervalMs true,
    .isCancelled (some false), .nowMs (some now)]
  refine ⟨happend.starts, happend.count, fun paced => ?_⟩
  obtain ⟨before, hbefore, htime, -⟩ := h.passed paced.past
  have hnow : now ∈ readings (log ++ [.sleepMs setting.options.pollIntervalMs true,
      .isCancelled (some false), .nowMs (some now)]) := by
    rw [readings_append]
    exact List.mem_append_right _ List.mem_cons_self
  refine ⟨now, hnow, ?_, ?_⟩
  · -- the pause has left the query active, so its time has passed
    rcases paced.pauses log _ _ rfl with hcancelled | hpassed
    · exact absurd rfl hcancelled
    · have hpause := hpassed before hbefore now List.mem_cons_self
      rw [Nat.succ_mul]
      omega
  · have hstart := paced.start_le happend.starts now hnow
    rw [UInt64.lt_iff_toNat_lt, UInt64.toNat_sub_of_le _ _ hstart] at hactive
    rw [UInt64.le_iff_toNat_le] at hstart
    omega

/-- The pauses fit in the time of the query. -/
theorem few (h : Polling setting pauses count log) (valid : setting.options.Valid)
    (paced : Paced log) : pauses < setting.options.intervals := by
  have hpositive : 0 < setting.options.pollIntervalMs.toNat := by
    by_contra hzero
    apply valid
    right; right; left
    exact UInt64.toNat_inj.mp (Nat.eq_zero_of_not_pos hzero)
  obtain ⟨now, -, hpast, hintime⟩ := h.passed paced
  by_contra hmany
  have htime := (ceilDiv_le_iff_le_mul hpositive).mp (Nat.not_lt.mp hmany)
  rw [Nat.mul_comm] at htime
  omega

theorem within (h : Polling setting pauses count log) (valid : setting.options.Valid)
    (hcount : count ≤ pauses + 1) : Within setting.options.intervals log := by
  intro paced
  have hfew := h.few valid paced
  rw [h.count]
  omega

end Polling

/-- A session from which no chunk was taken. -/
structure Untaken (setting : Setting) (s : Session) : Prop extends Unread s where
  constant : s.setting = setting

theorem Untaken.sent {setting : Setting} {s s' : Session} (h : Untaken setting s)
    (hsent : Sent s s') : Untaken setting s' := by
  obtain ⟨_, _, _, rfl⟩ := hsent
  exact { h with constant := h.constant }

section Polls

variable {setting : Setting} (valid : setting.options.Valid) {pauses : Nat} {c : Client}

include valid

/-- Each turn of the loop takes one pause and one request. -/
theorem wp_poll_turns (fuel : Nat) (decoded : QueryResponse)
    (h : Ongoing (Polling setting pauses (pauses + 1)) (Untaken setting) c) :
    wp (QueryApiV3Client.poll env fuel decoded)
      (fun _ => Ongoing (Within setting.options.intervals) (Untaken setting))
      (fun _ => Ongoing (Within setting.options.intervals) (Untaken setting))
      (fun c' => Within setting.options.intervals c'.log ∧
        (Paced c'.log → pauses + fuel < setting.options.intervals)) c := by
  have hwithin {pauses count : Nat} {c : Client} (hcount : count ≤ pauses + 1)
      (h : Ongoing (Polling setting pauses count) (Untaken setting) c) :
      Ongoing (Within setting.options.intervals) (Untaken setting) c :=
    ⟨h.log.within valid hcount, h.session⟩
  induction fuel generalizing decoded pauses c with
  | zero => exact ⟨h.log.within valid (Nat.le_refl _), fun paced => h.log.few valid paced⟩
  | succ fuel ih =>
      rw [QueryApiV3Client.poll, wp_ite]
      refine ⟨fun _ => hwithin (Nat.le_refl _) h, fun _ => ?_⟩
      rw [wp_bind, wp_look, wp_bind, wp_raiseIf]
      refine ⟨fun _ => hwithin (Nat.le_refl _) h, fun _ => ?_⟩
      have hidle := (Polling.silent setting pauses (pauses + 1)).idle
      rw [wp_bind]
      refine wp_sleepMs ?_ (hwithin (Nat.le_refl _) (h.quiet hidle trivial))
      -- the pause, and the check behind it
      have hpaused : Ongoing (Polling setting pauses (pauses + 1)) (Untaken setting)
          (c.record (.sleepMs c.session.options.pollIntervalMs true)) := h.quiet hidle trivial
      rw [wp_bind]
      refine wp_mono (wp_and ((keeps_checkActive hidle).total total_checkActive hpaused)
        (wp_checkActive_returns _)) ?_ (fun _ _ h => hwithin (Nat.le_refl _) h.1)
          fun _ h => h.1.elim
      intro _ c₁ hchecked
      obtain ⟨-, now, rfl, -, -, hactive⟩ := hchecked
      have hoptions : c.session.options = setting.options :=
        congrArg Setting.options h.session.constant
      have hstarted : c.session.startedAtMs = setting.startedAtMs :=
        congrArg Setting.startedAtMs h.session.constant
      have hpassed := h.log.pause (hoptions ▸ hstarted ▸ hactive)
      rw [wp_bind, wp_modify, wp_bind]
      refine wp_mono (wp_exchange_once (Polling.silent setting (pauses + 1) (pauses + 1))
        (Polling.silent setting (pauses + 1) (pauses + 2)) Polling.send
        (fun _ _ h hsent => Untaken.sent h hsent)
        (fun _ _ (h : Untaken setting _) => { h with constant := h.constant })
        (c := Client.onSession _ _) ⟨?_, ?_⟩) ?_ ?_ fun _ h => h.elim
      · simpa [hoptions] using hpassed
      · exact { h.session with constant := h.session.constant }
      · intro next c₂ h₂
        refine wp_mono (ih next h₂) (fun _ _ h => h) (fun _ _ h => h) fun c' h =>
          ⟨h.1, fun paced => ?_⟩
        have hfew := h.2 paced
        omega
      · rintro _ c₂ (h₂ | h₂)
        · exact hwithin (by omega) h₂
        · exact hwithin (by omega) h₂

end Polls

/-! ## The chunks -/

theorem silent_within (n : Nat) : Silent (Within n) := by
  intro log e he h paced
  rw [sends_append, he, List.append_nil]
  exact h paced.past

theorem Within.send {n : Nat} (log : List QueryEvent) (r : HttpRequest)
    (answer : Option HttpResponse) (h : Within n log) :
    Within (n + 1) (log ++ [.send r answer]) := by
  intro paced
  rw [sends_append, List.length_append]
  exact Nat.succ_le_succ (h paced.past)

theorem Within.mono {n m : Nat} {log : List QueryEvent} (h : Within n log) (hle : n ≤ m) :
    Within m log := fun paced => Nat.le_trans (h paced) hle

/-- A session that has handed out `fetched` chunks at least may have made
`requests` requests; `ahead` of them bring a chunk that is not counted yet. -/
structure Counts (options : QueryOptions) (fetched requests ahead : Nat) (s : Session) : Prop where
  own : s.options = options
  few : s.mode = .numberedV3 → s.expectedChunks ≤ options.maxChunks
  index : s.mode = .numberedV3 → s.nextChunkIndex ≤ s.expectedChunks
  fetched : fetched ≤ s.fetchedChunks.toNat
  chunks : s.fetchedChunks ≤ options.maxChunks
  numbered : s.mode = .numberedV3 → requests ≤ options.intervals + s.nextChunkIndex.toNat + 1
  direct : s.mode = .directLegacy → requests ≤ options.intervals + s.fetchedChunks.toNat + ahead

/-- The requests of a session that hands out chunks. -/
def Counting (options : QueryOptions) (fetched : Nat) (c : Client) : Prop :=
  ∃ requests, Ongoing (Within requests) (Counts options fetched requests 0) c

/-- The requests of a query that failed, or may fail. -/
def Limited (options : QueryOptions) (c : Client) : Prop :=
  Within (options.intervals + options.maxChunks.toNat + 1 + if c.session.terminal then 1 else 0)
    c.log

section Chunks

variable {fetched requests ahead : Nat} {c : Client}

theorem Counts.sent {s s' : Session} (h : Counts options fetched requests ahead s)
    (hsent : Sent s s') : Counts options fetched requests ahead s' := by
  obtain ⟨_, _, _, rfl⟩ := hsent
  exact ⟨h.own, h.few, h.index, h.fetched, h.chunks, h.numbered, h.direct⟩

theorem Counts.learns {s : Session} (h : Counts options fetched requests ahead s) (id : Bytes) :
    Counts options fetched requests ahead { s with queryId := id } :=
  ⟨h.own, h.few, h.index, h.fetched, h.chunks, h.numbered, h.direct⟩

/-- The counters keep the requests within the limit. -/
theorem Counts.le {s : Session} (h : Counts options fetched requests ahead s) (hahead : ahead ≤ 1) :
    requests ≤ options.intervals + options.maxChunks.toNat + 1 := by
  cases hmode : s.mode with
  | numberedV3 =>
      have hnumbered := h.numbered hmode
      have hindex := UInt64.le_iff_toNat_le.mp (h.index hmode)
      have hfew := UInt64.le_iff_toNat_le.mp (h.few hmode)
      omega
  | directLegacy =>
      have hdirect := h.direct hmode
      have hchunks := UInt64.le_iff_toNat_le.mp h.chunks
      omega

theorem limited_of_within {n : Nat} (h : Within n c.log)
    (hle : n ≤ options.intervals + options.maxChunks.toNat + 1) : Limited options c :=
  h.mono (Nat.le_add_right_of_le hle)

theorem Counting.limited (h : Counting options fetched c) : Limited options c := by
  obtain ⟨_, hlog, hcounts⟩ := h
  exact limited_of_within hlog (hcounts.le (Nat.zero_le 1))

/-- The cleanup is one request, and it is sent once. -/
theorem limited_cancel (h : Limited options c) : Limited options (cancel env c) := by
  unfold cancel
  split
  · exact h
  · rename_i hcleans
    have hactive : c.session.terminal = false := by
      cases hterminal : c.session.terminal with
      | false => rfl
      | true => exact (hcleans (.inl hterminal)).elim
    rw [Limited, hactive] at h
    exact h.send _ _ _

/-- A chunk that is handed out is counted. -/
theorem wp_deliver_counting (response : QueryResponse)
    (h : Ongoing (Within requests) (Counts options fetched requests 1) c) :
    wp (QueryCursor.deliver env response) (fun _ => Counting options (fetched + 1))
      (fun _ => Limited options) (fun _ => False) c := by
  have hidle := (silent_within requests).idle
  have hlimited {c : Client} (h : Ongoing (Within requests) (Counts options fetched requests 1) c) :
      Limited options c := limited_of_within h.log (h.session.le (Nat.le_refl 1))
  have hremember : Keeps (Ongoing (Within requests) (Counts options fetched requests 1))
      (rememberQueryId response) := keeps_remember (fun _ id h => h.learns id) response
  rw [QueryCursor.deliver]
  apply wp_bind_of_keeps hremember (total_rememberQueryId response) h ?_ fun _ _ h => hlimited h
  intro _ c₁ h₁
  apply wp_bind_of_keeps (keeps_checkActive hidle) total_checkActive h₁ ?_ fun _ _ h => hlimited h
  intro _ c₂ h₂
  rw [wp_bind]
  refine wp_mono (wp_accept_exact response c₂) ?_ ?_ fun _ h => h
  · intro chunk c₃ haccepted
    obtain ⟨hacceptable, rfl, rfl⟩ := haccepted
    rw [wp_bind, wp_modify, wp_pure]
    have hcounts := h₂.session
    have hchunk : (c₂.session.fetchedChunks + 1).toNat = c₂.session.fetchedChunks.toNat + 1 :=
      toNat_succ hacceptable.chunks
    have hcounted : Counts options (fetched + 1) requests 0
        (c₂.session.count response.chunk.rows.length) := by
      refine ⟨hcounts.own, hcounts.few, hcounts.index, ?_, ?_, hcounts.numbered, fun hmode => ?_⟩
      · show fetched + 1 ≤ (c₂.session.fetchedChunks + 1).toNat
        have hfetched := hcounts.fetched
        omega
      · show c₂.session.fetchedChunks + 1 ≤ options.maxChunks
        have hless := UInt64.lt_iff_toNat_lt.mp hacceptable.chunks
        rw [hcounts.own] at hless
        rw [UInt64.le_iff_toNat_le]
        omega
      · show requests ≤ options.intervals + (c₂.session.fetchedChunks + 1).toNat + 0
        have hdirect := hcounts.direct hmode
        omega
    refine ⟨requests, h₂.log, ?_⟩
    show Counts options (fetched + 1) requests 0
      (QueryCursor.follow _ (c₂.session.count response.chunk.rows.length))
    unfold QueryCursor.follow
    split
    · exact ⟨hcounted.own, hcounted.few, hcounted.index, hcounted.fetched, hcounted.chunks,
        hcounted.numbered, hcounted.direct⟩
    · exact hcounted
  · intro _ c₃ hrefused
    obtain ⟨-, k, -, rfl⟩ := hrefused
    exact hlimited (c := c₂) h₂

/-- A chunk that is fetched costs one request. -/
theorem wp_fetchDeliver_counting {f : Session → Session}
    (hlog : Within requests c.log) (h : Counts options fetched (requests + 1) 1 (f c.session)) :
    wp (do
        let response ← (do
          modify f
          let response ← send env
          decode env response : Query QueryResponse)
        QueryCursor.deliver env response)
      (fun _ => Counting options (fetched + 1)) (fun _ => Limited options) (fun _ => False) c := by
  have hfetch := @wp_fetch_once env _ _ _ (c.onSession f) (silent_within requests)
    (silent_within (requests + 1)) Within.send (fun _ _ h hsent => Counts.sent h hsent) ⟨hlog, h⟩
  rw [wp_bind, wp_bind, wp_modify]
  refine wp_mono hfetch (fun response c' h' => wp_deliver_counting response h') ?_ fun _ h => h
  rintro _ c' (h' | h')
  · have hle := h'.session.le (Nat.le_refl 1)
    exact limited_of_within h'.log (by omega)
  · exact limited_of_within h'.log (h'.session.le (Nat.le_refl 1))

/-- The rules for `NextChunk`. -/
theorem chunkRules_counting (options : QueryOptions) (fetched : Nat) :
    ChunkRules env (Counting options fetched) (Counting options (fetched + 1))
      (fun _ => Limited options) where
  fails _ _ h := h.limited
  cancels _ _ h := limited_cancel h
  numbered c h ready hmode hmore := by
    obtain ⟨requests, hlog, hcounts⟩ := h
    have hindex : (c.session.nextChunkIndex + 1).toNat = c.session.nextChunkIndex.toNat + 1 :=
      toNat_succ hmore
    have hasked :
        Counts options fetched (requests + 1) 1 (QueryCursor.numberedRequest c.session) := by
      refine ⟨hcounts.own, hcounts.few, fun _ => ?_, hcounts.fetched, hcounts.chunks, fun _ => ?_,
        fun hdirect => by cases hmode.symm.trans hdirect⟩
      · show c.session.nextChunkIndex + 1 ≤ c.session.expectedChunks
        rw [UInt64.le_iff_toNat_le, hindex]
        exact UInt64.lt_iff_toNat_lt.mp hmore
      · show requests + 1 ≤ options.intervals + (c.session.nextChunkIndex + 1).toNat + 1
        have hnumbered := hcounts.numbered hmode
        omega
    exact wp_mono (wp_fetchDeliver_counting hlog hasked) (fun _ _ h => h) (fun _ _ h => h)
      fun _ h => h.elim
  buffered response c h ready hmode hbuffer := by
    obtain ⟨requests, hlog, hcounts⟩ := h
    have hready : Counts options fetched requests 1 { c.session with bufferedDirect := none } :=
      ⟨hcounts.own, hcounts.few, hcounts.index, hcounts.fetched, hcounts.chunks, hcounts.numbered,
        fun hmode => Nat.le_add_right_of_le (hcounts.direct hmode)⟩
    exact wp_mono (wp_deliver_counting response ⟨hlog, hready⟩) (fun _ _ h => h) (fun _ _ h => h)
      fun _ h => h.elim
  direct c h ready hmode hbuffer := by
    obtain ⟨requests, hlog, hcounts⟩ := h
    rw [wp_bind, QueryCursor.fetchDirect, wp_bind, wp_look, wp_bind, wp_raiseIf]
    refine ⟨fun _ => limited_of_within hlog (hcounts.le (Nat.zero_le 1)), fun _ => ?_⟩
    have hasked : Counts options fetched (requests + 1) 1 (QueryCursor.directRequest c.session) :=
      ⟨hcounts.own, hcounts.few, hcounts.index, hcounts.fetched, hcounts.chunks,
        (fun hnumbered => by cases hmode.symm.trans hnumbered),
        fun hdirect => Nat.succ_le_succ (hcounts.direct hdirect)⟩
    rw [← wp_bind]
    exact wp_mono (wp_fetchDeliver_counting hlog hasked) (fun _ _ h => h) (fun _ _ h => h)
      fun _ h => h.elim
  finishes α c h ready := by
    obtain ⟨requests, hlog, hcounts⟩ := h
    refine wp_finished_of (fun _ => ?_) fun _ _ =>
      limited_of_within hlog (hcounts.le (Nat.zero_le 1))
    exact ⟨rfl, requests, hlog, hcounts.own, hcounts.few, hcounts.index, hcounts.fetched,
      hcounts.chunks, hcounts.numbered, hcounts.direct⟩

/-- Each turn of the loop of `Execute` hands out one chunk. -/
theorem wp_executeLoop_counting (fuel : Nat) (chunks : List ResultChunk)
    (h : Counting options fetched c) :
    wp (QueryApiV3Client.executeLoop env fuel chunks) (fun _ => Limited options)
      (fun _ => Limited options)
      (fun c' => Limited options c' ∧ fetched + fuel ≤ options.maxChunks.toNat) c := by
  induction fuel generalizing chunks fetched c with
  | zero =>
      refine ⟨h.limited, ?_⟩
      obtain ⟨_, -, hcounts⟩ := h
      exact Nat.le_trans hcounts.fetched (UInt64.le_iff_toNat_le.mp hcounts.chunks)
  | succ fuel ih =>
      rw [QueryApiV3Client.executeLoop, wp_bind]
      refine wp_mono (wp_and ((chunkRules_counting options fetched).nextChunk h)
        (total_nextChunk c)) ?_ (fun _ _ h => h.1) fun _ h => h.2.elim
      rintro next c' ⟨⟨rfl, h'⟩ | h', -⟩
      · exact h'.limited
      · cases next with
        | none =>
            obtain ⟨requests, hlog, hcounts⟩ := h'
            exact limited_of_within hlog (hcounts.le (Nat.zero_le 1))
        | some chunk =>
            refine wp_mono (ih _ h') (fun _ _ h => h) (fun _ _ h => h) fun c' h => ⟨h.1, ?_⟩
            have hfew := h.2
            omega

end Chunks

/-! ## The result -/

/-- The requests that a query may make, with its cleanup. -/
def QueryOptions.maxRequests (options : QueryOptions) : Nat :=
  options.overallTimeoutMs.toNat ⌈/⌉ options.pollIntervalMs.toNat + options.maxChunks.toNat + 2

/-- The end of `PrepareInternal` takes one request at most. -/
theorem openRules_counting (setting : Setting) :
    OpenRules env (Ongoing (Within setting.options.intervals) (Untaken setting))
      (Counting setting.options 0) (fun _ => Limited setting.options) where
  fails _ c h := limited_of_within h.log (by omega)
  refuses decoded _ c h := limited_of_within (c := Client.onSession _ _) h.log (by omega)
  columns _ c h _ := h.limited
  direct decoded c h := by
    have hindex := h.session.nextChunkIndex
    have hfetched := h.session.fetchedChunks
    refine ⟨setting.options.intervals, h.log, congrArg Setting.options h.session.constant,
      (fun h => by cases h), (fun h => by cases h), Nat.zero_le _, ?_, (fun h => by cases h),
      fun _ => ?_⟩
    · show c.session.fetchedChunks ≤ _
      rw [hfetched, UInt64.le_iff_toNat_le]
      exact Nat.zero_le _
    · exact Nat.le_add_right_of_le (Nat.le_add_right_of_le (Nat.le_refl _))
  numbered decoded c h hsafe hfew := by
    have hown : c.session.options = setting.options := congrArg Setting.options h.session.constant
    rw [hown] at hfew
    have hzero : c.session.nextChunkIndex ≤ decoded.chunkCount := by
      rw [h.session.nextChunkIndex, UInt64.le_iff_toNat_le]
      exact Nat.zero_le _
    have hcounts : Counts setting.options 0 (setting.options.intervals + 1) 0
        (QueryApiV3Client.numberedSession decoded c.session) := by
      refine ⟨hown, fun _ => hfew, fun _ => hzero, Nat.zero_le _, ?_, fun _ => ?_,
        fun h => by cases h⟩
      · show c.session.fetchedChunks ≤ _
        rw [h.session.fetchedChunks, UInt64.le_iff_toNat_le]
        exact Nat.zero_le _
      · show _ ≤ _ + c.session.nextChunkIndex.toNat + 1
        omega
    have hfetch :=
      @wp_fetch_once env _ _ (Counts setting.options 0 (setting.options.intervals + 1) 0)
      ((c.onSession (QueryApiV3Client.numberedSession decoded)).onSession fun s =>
        { s with request := s.getRequest (s.queryUrl ++ ascii "/metadata") })
      (silent_within setting.options.intervals) (silent_within (setting.options.intervals + 1))
      Within.send (fun _ _ h hsent => h.sent hsent)
      ⟨h.log, hcounts.own, hcounts.few, hcounts.index, hcounts.fetched, hcounts.chunks,
        hcounts.numbered, hcounts.direct⟩
    rw [wp_bind] at hfetch
    rw [QueryApiV3Client.fetchMetadata, wp_bind, wp_modify, wp_bind]
    have hraised {c' : Client} (h : Ongoing (Within setting.options.intervals)
          (Counts setting.options 0 (setting.options.intervals + 1) 0) c' ∨
        Ongoing (Within (setting.options.intervals + 1))
          (Counts setting.options 0 (setting.options.intervals + 1) 0) c') :
        Limited setting.options c' := by
      rcases h with h | h
      · exact limited_of_within h.log (by omega)
      · exact limited_of_within h.log (by omega)
    refine wp_mono hfetch (fun response c₁ h₁ => ?_) (fun _ _ h => hraised h) fun _ h => h.elim
    rw [wp_bind]
    refine wp_mono h₁ (fun metadata c₂ h₂ => ?_) (fun _ _ h => hraised h) fun _ h => h.elim
    rw [wp_bind, wp_raiseIf]
    refine ⟨fun _ => hraised (.inr h₂), fun _ => ?_⟩
    rw [wp_bind, wp_modify, wp_raiseIf]
    have hopened : Counting setting.options 0 (c₂.onSession fun s =>
        { s with metadata := metadata.metadata }) :=
      ⟨_, h₂.log, h₂.session.own, h₂.session.few, h₂.session.index, h₂.session.fetched,
        h₂.session.chunks, h₂.session.numbered, h₂.session.direct⟩
    exact ⟨fun _ => hopened.limited, fun _ => hopened⟩

/-- `PrepareInternal` hands out a session with its requests counted, and cannot
be cut off when it has fuel for every interval. -/
theorem wp_prepareInternal_counting (valid : options.Valid) (fuel : Nat) (sql : Bytes)
    (credentials : QueryCredentials) (metadataOnly : Bool) :
    wp (QueryApiV3Client.prepareInternal env fuel sql credentials metadataOnly options)
      (fun _ => Counting options 0) (fun _ => Limited options)
      (fun c' => Limited options c' ∧ (Paced c'.log → fuel < options.intervals)) {} := by
  have hbody (flag : Option Bool) (now : UInt64) :
      wp (QueryApiV3Client.prepareBody env fuel) (fun _ => Opens (Counting options 0))
        (fun _ => Limited options)
        (fun c' => Limited options c' ∧ (Paced c'.log → fuel < options.intervals))
        { session :=
            { options, credentials
              startedAtMs := now
              request := QueryApiV3Client.submitRequest sql credentials metadataOnly options }
          log := [.isCancelled flag, .nowMs (some now)] } := by
    let setting : Setting := ⟨options, credentials, now⟩
    have hovertime : 0 < options.overallTimeoutMs.toNat := by
      by_contra hzero
      apply valid
      right; left
      exact UInt64.toNat_inj.mp (Nat.eq_zero_of_not_pos hzero)
    have hstart : Polling setting 0 0 [.isCancelled flag, .nowMs (some now)] := by
      refine ⟨rfl, rfl, fun _ => ⟨now, List.mem_cons_self, ?_, ?_⟩⟩
      · rw [Nat.zero_mul]
        exact Nat.le_refl _
      · exact Nat.lt_add_of_pos_right hovertime
    have hlimited {c' : Client} (h : Within options.intervals c'.log) : Limited options c' :=
      limited_of_within h (by omega)
    apply (openRules_counting setting).wp_prepareBody
    rw [wp_bind]
    refine wp_mono (wp_exchange_once (Polling.silent setting 0 0) (Polling.silent setting 0 1)
      Polling.send (fun _ _ h hsent => Untaken.sent h hsent)
      (fun _ _ (h : Untaken setting _) => { h with constant := h.constant }) ⟨hstart, ?_⟩)
      ?_ ?_ fun _ h => h.elim
    · exact ⟨⟨rfl, rfl, rfl, rfl, rfl, rfl⟩, rfl⟩
    · intro submitted c₁ h₁
      refine wp_mono (@wp_poll_turns env setting valid 0 c₁ fuel submitted h₁) (fun _ _ h => h)
        (fun _ _ h => hlimited h.log) fun c' h => ⟨hlimited h.1, fun paced => ?_⟩
      have hfew := h.2 paced
      rwa [Nat.zero_add] at hfew
    · rintro _ c' (h | h)
      · exact hlimited (h.log.within valid (by omega))
      · exact hlimited (h.log.within valid (by omega))
  have hunsent (c : Client) (h : Unsent c) : Limited options c := by
    intro _
    rw [sends_of_quiet h.log]
    exact Nat.zero_le _
  refine wp_mono (wp_prepareInternal_of_body (fun _ _ h => limited_cancel h) hbody
    fun _ c _ h _ => hunsent c h) (fun _ _ h => h.1) (fun _ _ h => h) fun _ h => h

/-- `Execute` returns or throws, after a number of requests that its options
alone give: it makes no more of them with any fuel, and is not cut off with
fuel for as many. -/
theorem execute_terminates (env : QueryEnv) (fuel : Nat) (sql : Bytes)
    (credentials : QueryCredentials) (options : QueryOptions) (valid : options.Valid)
    (paced : Paced (QueryApiV3Client.execute env fuel sql credentials options {}).2.log) :
    (sends (QueryApiV3Client.execute env fuel sql credentials options {}).2.log).length
        ≤ options.maxRequests ∧
      (options.maxRequests ≤ fuel →
        (QueryApiV3Client.execute env fuel sql credentials options {}).1 ≠ .cut) := by
  have hexecute : wp (QueryApiV3Client.execute env fuel sql credentials options)
      (fun _ => Limited options) (fun _ => Limited options)
      (fun c' => Limited options c' ∧ (Paced c'.log → fuel < options.maxRequests)) {} := by
    rw [QueryApiV3Client.execute, wp_bind]
    refine wp_mono (wp_prepareInternal_counting valid fuel sql credentials false) ?_
      (fun _ _ h => h) fun c' h => ⟨h.1, fun paced => ?_⟩
    · intro _ c h
      rw [withDestructor, wp_bind, wp_onRaise, QueryApiV3Client.collectChunks, wp_bind, wp_look,
        wp_bind]
      refine wp_mono (wp_executeLoop_counting fuel [] h) ?_ ?_ fun c' h => ⟨h.1, fun _ => ?_⟩
      · exact fun _ _ h => limited_cancel h
      · exact fun _ _ h => limited_cancel h
      · have hfew := h.2
        unfold QueryOptions.maxRequests
        omega
    · have hfew := h.2 paced
      unfold QueryOptions.maxRequests
      unfold QueryOptions.intervals at hfew
      omega
  have hlimit {c : Client} (h : Limited options c) (paced : Paced c.log) :
      (sends c.log).length ≤ options.maxRequests := by
    have hsends := h paced
    unfold QueryOptions.maxRequests
    unfold QueryOptions.intervals at hsends
    split at hsends <;> omega
  rw [wp_iff] at hexecute
  obtain ⟨hret, hraise, hcut⟩ := hexecute
  rcases hrun : QueryApiV3Client.execute env fuel sql credentials options {} with ⟨outcome, c⟩
  rw [hrun] at paced
  cases outcome with
  | ret result => exact ⟨hlimit (hret _ _ hrun) paced, fun _ h => by cases h⟩
  | raise e => exact ⟨hlimit (hraise _ _ hrun) paced, fun _ h => by cases h⟩
  | cut =>
      obtain ⟨hlimited, hfuel⟩ := hcut _ hrun
      refine ⟨hlimit hlimited paced, fun henough => ?_⟩
      exact absurd (hfuel paced) (Nat.not_lt.mpr henough)

/-- A clock that goes on with every reading, and a query that is running when it
is asked for the first time. -/
def runningEnv : QueryEnv :=
  scriptedEnv (fun n => 250 * UInt64.ofNat n) (fun _ => some ⟨200, [], ∅⟩) fun n =>
    .response
      { state := if n = 1 then .running else .complete
        queryId := ascii "q1"
        metadata := [⟨ascii "c", ascii "text", true, false, false, 0, 0⟩]
        chunk := { rows := [[some (ascii "x")]] } }

/-- The query pauses once and returns. -/
def runningRun : Outcome QueryError QueryResult × Client :=
  QueryApiV3Client.execute runningEnv 1506 (ascii "SELECT 1") sampleCredentials {} {}

theorem execute_terminates_running :
    (sends runningRun.2.log).length ≤ QueryOptions.maxRequests {} ∧ runningRun.1 ≠ .cut := by
  have hpaced : Paced runningRun.2.log :=
    paced_of_pausesPass (by decide +kernel) (by decide +kernel)
  have hfuel : QueryOptions.maxRequests {} ≤ 1506 := by decide
  rw [runningRun] at hpaced ⊢
  have hterminates := execute_terminates runningEnv 1506 (ascii "SELECT 1") sampleCredentials {}
    (by decide) hpaced
  exact ⟨hterminates.1, hterminates.2 hfuel⟩
end Data360
