import Mathlib.Algebra.Order.Floor.Semiring
import Mathlib.Data.Rat.Floor
import Mathlib.Tactic.Linarith
import UptimeFlow.Retrying

/-!
# UptimeFlow.Notifications.Ses

The e-mail provider: one message with retries, and many messages under a rate.

The client, the clock and the jitter are an environment (`Env`); a `World` is
what they have seen so far.  A send makes one call after the other while the
error is worth it, and counts what it does (`sendEmail_spec`).  A bulk send
pauses between messages and not between the calls of one message, where only
the backoff does; from ten messages a second on, the pause is the shorter of the
two, and then no second sees more calls than the configured rate allows
(`bulk_rate`).
-/

namespace UptimeFlow.Notifications.Ses

/-! ## errors -/

/-- What a client throws; `text` is what `String` makes of it. -/
structure Thrown where
  name : Option String := none
  message : Option String := none
  code : Option String := none
  httpStatusCode : Option Nat := none
  text : String
deriving DecidableEq, Repr

inductive EmailErrorKind where
  | rateLimit | invalidRecipient | auth | network | server | config | unknown
deriving DecidableEq, Repr

structure ClassifiedEmailError where
  kind : EmailErrorKind
  retryable : Bool
  name : String
  message : String
  statusCode : Option Nat
deriving DecidableEq, Repr

/-- Classify an error into a stable kind and retryability. -/
def classifyEmailError (error : Thrown) : ClassifiedEmailError :=
  let name := error.name.getD "Error"
  let code := error.code.getD ""
  let is (names : List String) : Bool := names.contains name || names.contains code
  let classified (kind : EmailErrorKind) (retryable : Bool) : ClassifiedEmailError :=
    ⟨kind, retryable, name, error.message.getD error.text, error.httpStatusCode⟩
  if is ["ThrottlingException", "TooManyRequestsException", "Throttling",
      "LimitExceededException"] then classified .rateLimit true
  else if is ["MessageRejected", "MailFromDomainNotVerifiedException",
      "AccountSuspendedException", "SendingPausedException"] then
    classified .invalidRecipient false
  else if is ["AccessDeniedException", "UnrecognizedClientException", "InvalidClientTokenId",
      "AuthFailure"] then classified .auth false
  else if is ["BadRequestException", "ValidationException"] then classified .config false
  else if is ["TimeoutError", "RequestTimeout", "ECONNRESET", "ETIMEDOUT", "ENOTFOUND", "EPIPE"] ||
      name == "NetworkingError" then classified .network true
  else if error.httpStatusCode.any (500 ≤ ·) then classified .server true
  else if error.httpStatusCode == some 429 then classified .rateLimit true
  else classified .unknown false

/-! ## messages -/

/-- `string | string[]` -/
inductive Recipients where
  | one (address : String)
  | many (addresses : List String)
deriving DecidableEq, Repr

/-- `recipientLabel` -/
def Recipients.label : Recipients → String
  | .one address => address
  | .many addresses => ", ".intercalate addresses

def Recipients.addresses : Recipients → List String
  | .one address => [address]
  | .many addresses => addresses

structure EmailMessage where
  recipients : Recipients
  subject : String
  html : String
  text : String
  replyTo : Option String := none
  template : Option String := none
deriving DecidableEq, Repr

structure SesSendInput where
  fromEmailAddress : String
  toAddresses : List String
  replyToAddresses : Option (List String)
  subject : String
  html : String
  text : String
deriving DecidableEq, Repr

/-- `parseEmailConfig` lets between one and ten attempts pass. -/
structure EmailConfig where
  fromAddress : String
  maxRetries : Nat
  sendsPerSecond : Nat := 14
  one_le : 1 ≤ maxRetries
  le_ten : maxRetries ≤ 10

def EmailConfig.buildInput (config : EmailConfig) (message : EmailMessage) : SesSendInput where
  fromEmailAddress := config.fromAddress
  toAddresses := message.recipients.addresses
  replyToAddresses := (message.replyTo.filter (· ≠ "")).map ([·])
  subject := message.subject
  html := message.html
  text := message.text

/-- `Math.ceil(1000 / Math.max(1, sendsPerSecond))` -/
def EmailConfig.minIntervalMs (config : EmailConfig) : Nat :=
  (1000 + max 1 config.sendsPerSecond - 1) / max 1 config.sendsPerSecond

/-! ## the environment -/

/-- The client's answer to each call and the time it takes, the factor `0.5 + Math.random() / 2`
drawn after it, and how late the timer behind it is. -/
structure Env where
  reply : Nat → SesSendInput → Except Thrown (Option String)
  latency : Nat → Nat
  factor : Nat → ℚ
  lateness : Nat → Nat
  half_le : ∀ n, 1 / 2 ≤ factor n
  le_one : ∀ n, factor n ≤ 1

structure SesCall where
  time : Nat
  input : SesSendInput
deriving DecidableEq, Repr

inductive Metric where
  | sent (template : Option String)
  | failed (template : Option String) (kind : EmailErrorKind)
  | retry (template : Option String) (kind : EmailErrorKind)
  | duration (ms : Nat) (template : Option String) (sent : Bool)
deriving DecidableEq, Repr

structure World where
  clock : Nat := 0
  calls : List SesCall := []
  metrics : List Metric := []
deriving DecidableEq, Repr

abbrev Sending := Eff World Thrown

section
variable (env : Env)

/-- `client.sendEmail(input)` -/
def callSes (input : SesSendInput) : Sending (Option String) := ⟨fun w =>
  (env.reply w.calls.length input,
    { w with
      calls := w.calls ++ [⟨w.clock, input⟩]
      clock := w.clock + env.latency w.calls.length })⟩

/-- `sleep(ms)`: not shorter than asked for. -/
def World.sleep (ms : Nat) (w : World) : World :=
  { w with clock := w.clock + ms + env.lateness w.calls.length }

def World.count (ms : List Metric) (w : World) : World := { w with metrics := w.metrics ++ ms }

/-- The ceiling of the backoff behind an attempt. -/
def ceiling (attempt : Nat) : Nat := min 5000 (200 * 2 ^ (attempt - 1))

/-- Exponential backoff with full jitter: `Math.round` of a share of the ceiling. -/
def delayMs (attempt : Nat) (factor : ℚ) : Nat := ⌊(ceiling attempt : ℚ) * factor + 1 / 2⌋₊

/-- `onRetry`, and the wait. -/
def backOff (template : Option String) (attempt : Nat) (error : Thrown) (w : World) : World :=
  (w.count [.retry template (classifyEmailError error).kind]).sleep env
    (delayMs attempt (env.factor w.calls.length))

def withRetry (config : EmailConfig) (message : EmailMessage) : Sending (Option String) :=
  Eff.retrying (callSes env (config.buildInput message))
    (fun e => (classifyEmailError e).retryable) (backOff env message.template) config.maxRetries 1
    { text := "undefined" }

structure EmailSendResult where
  messageId : Option String
  provider : String := "ses"
deriving DecidableEq, Repr

def sendEmail (config : EmailConfig) (message : EmailMessage) : Sending EmailSendResult := do
  let start ← .read World.clock
  .rescue (do
    let messageId ← withRetry env config message
    .write false { text := "" } fun w =>
      w.count [.sent message.template, .duration (w.clock - start) message.template true]
    return { messageId })
    fun error => do
      .write false { text := "" } fun w =>
        w.count [.failed message.template (classifyEmailError error).kind,
          .duration (w.clock - start) message.template false]
      .raise error

structure BulkEntry where
  recipient : String
  messageId : Option String
  error : Option String := none
deriving DecidableEq, Repr

structure BulkEmailResult where
  sent : Nat := 0
  failed : Nat := 0
  results : List BulkEntry := []
deriving DecidableEq, Repr

/-- One message of a bulk send; what goes wrong is recorded, not raised. -/
def sendEntry (config : EmailConfig) (message : EmailMessage) (soFar : BulkEmailResult) :
    Sending BulkEmailResult :=
  .rescue (do
    let result ← sendEmail env config message
    return { soFar with
      results := soFar.results ++ [⟨message.recipients.label, result.messageId, none⟩]
      sent := soFar.sent + 1 })
    fun error => return { soFar with
      results := soFar.results ++
        [⟨message.recipients.label, none, some (classifyEmailError error).message⟩]
      failed := soFar.failed + 1 }

def sendBulkFrom (config : EmailConfig) :
    BulkEmailResult → List EmailMessage → Sending BulkEmailResult
  | soFar, [] => pure soFar
  | soFar, [message] => sendEntry env config message soFar
  | soFar, message :: next :: rest => do
      let soFar ← sendEntry env config message soFar
      .write false { text := "" } (World.sleep env config.minIntervalMs)
      sendBulkFrom config soFar (next :: rest)

def sendBulkEmail (config : EmailConfig) (messages : List EmailMessage) :
    Sending BulkEmailResult := sendBulkFrom env config {} messages

end

/-! ## one message -/

section
variable {env : Env} {config : EmailConfig} {message : EmailMessage}

theorem callSes_run (input : SesSendInput) (w : World) :
    (callSes env input).run w =
      (env.reply w.calls.length input,
        { w with
          calls := w.calls ++ [⟨w.clock, input⟩]
          clock := w.clock + env.latency w.calls.length }) := rfl

/-- What a stretch of attempts has added: `n` calls of one input, each answered with an error that
is worth another attempt and counted as a retry. -/
structure Retried (env : Env) (config : EmailConfig) (message : EmailMessage) (w : World) (n : Nat)
    (w' : World) : Prop where
  calls : w'.calls.length = w.calls.length + n
  clock : w.clock ≤ w'.clock
  inputs : ∃ added, w'.calls = w.calls ++ added ∧ ∀ c ∈ added, c.input = config.buildInput message
  metrics : ∃ errors : List Thrown, errors.length = n ∧
    w'.metrics = w.metrics ++ errors.map fun e => .retry message.template (classifyEmailError e).kind
  replies : ∀ i < n, ∃ e, env.reply (w.calls.length + i) (config.buildInput message) = .error e ∧
    (classifyEmailError e).retryable = true

theorem Retried.zero (w : World) : Retried env config message w 0 w where
  calls := rfl
  clock := Nat.le_refl _
  inputs := ⟨[], by simp⟩
  metrics := ⟨[], by simp⟩
  replies i hi := by omega

/-- One attempt more that fails, and the wait behind it. -/
theorem Retried.succ {w u v : World} {n attempt : Nat} {e : Thrown}
    (h : Retried env config message w n u)
    (hcall : (callSes env (config.buildInput message)).run u = (.error e, v))
    (hretry : (classifyEmailError e).retryable = true) :
    Retried env config message w (n + 1) (backOff env message.template attempt e v) := by
  rw [callSes_run, Prod.mk.injEq] at hcall
  obtain ⟨hreply, rfl⟩ := hcall
  obtain ⟨added, hadded, hinputs⟩ := h.inputs
  obtain ⟨errors, hlength, hmetrics⟩ := h.metrics
  refine ⟨?_, ?_, ⟨added ++ [⟨u.clock, config.buildInput message⟩], ?_, ?_⟩,
    ⟨errors ++ [e], ?_, ?_⟩, fun i hi => ?_⟩
  · simp [backOff, World.sleep, World.count, h.calls]
    omega
  · have hclock := h.clock
    simp only [backOff, World.sleep, World.count]
    omega
  · simp [backOff, World.sleep, World.count, hadded]
  · exact List.forall_mem_append.2 ⟨hinputs, by simp⟩
  · simp [hlength]
  · simp [backOff, World.sleep, World.count, hmetrics]
  · by_cases hin : i < n
    · exact h.replies i hin
    · obtain rfl : i = n := by omega
      exact ⟨e, by rw [← h.calls, hreply], hretry⟩

/-- The calls before the one that decides, and that one. -/
theorem withRetry_spec (w : World) :
    ∃ n u, n < config.maxRetries ∧ Retried env config message w n u ∧
      (withRetry env config message).run w = (callSes env (config.buildInput message)).run u ∧
      ∀ e, env.reply (w.calls.length + n) (config.buildInput message) = .error e →
        (classifyEmailError e).retryable = false ∨ n + 1 = config.maxRetries := by
  have hcases : ∃ m u r t, Eff.Failing (callSes env (config.buildInput message))
      (fun e => (classifyEmailError e).retryable) (backOff env message.template) 1 w m u ∧
      (callSes env (config.buildInput message)).run u = (r, t) ∧
      (withRetry env config message).run w = (r, t) ∧ m < 1 + config.maxRetries ∧
      ∀ e, r = .error e → (classifyEmailError e).retryable = false ∨
        m + 1 = 1 + config.maxRetries := Eff.retrying_cases config.one_le 1 _ w
  obtain ⟨m, u, r, t, hfailing, hcall, hresult, hlt, hend⟩ := hcases
  obtain ⟨hm, hretried⟩ : 1 ≤ m ∧ Retried env config message w (m - 1) u := by
    refine hfailing.inv (J := fun k v => 1 ≤ k ∧ Retried env config message w (k - 1) v) ?_
      ⟨Nat.le_refl 1, .zero w⟩
    rintro k s e v ⟨hk, hs⟩ hrun hretry
    refine ⟨Nat.le_succ_of_le hk, ?_⟩
    have hsucc : Retried env config message w (k - 1 + 1) (backOff env message.template k e v) :=
      hs.succ hrun hretry
    rwa [Nat.sub_add_cancel hk] at hsucc
  refine ⟨m - 1, u, by omega, hretried, hresult.trans hcall.symm, fun e he => ?_⟩
  rw [callSes_run, hretried.calls, Prod.mk.injEq] at hcall
  exact (hend e (hcall.1 ▸ he)).imp id fun h => by omega

/-- One entry more, in the count it goes into. -/
def BulkEmailResult.push (soFar : BulkEmailResult) (entry : BulkEntry) : BulkEmailResult where
  results := soFar.results ++ [entry]
  sent := soFar.sent + if entry.error.isNone then 1 else 0
  failed := soFar.failed + if entry.error.isNone then 0 else 1

theorem foldl_push (entries : List BulkEntry) (soFar : BulkEmailResult) :
    entries.foldl BulkEmailResult.push soFar =
      { results := soFar.results ++ entries
        sent := soFar.sent + entries.countP (·.error.isNone)
        failed := soFar.failed + entries.countP (·.error.isSome) } := by
  induction entries generalizing soFar with
  | nil => simp
  | cons entry entries ih =>
      rw [List.foldl_cons, ih, BulkEmailResult.push]
      cases herror : entry.error <;> simp [herror, Nat.add_assoc, Nat.add_comm 1]

/-- The entry a message leaves behind, and the world its send does. -/
theorem sendEntry_spec (soFar : BulkEmailResult) (w : World) :
    ∃ entry, (sendEntry env config message soFar).run w =
        (.ok (soFar.push entry), ((sendEmail env config message).run w).2) ∧
      entry.recipient = message.recipients.label := by
  rcases hrun : (sendEmail env config message).run w with ⟨e | result, w'⟩
  · exact ⟨⟨message.recipients.label, none, some (classifyEmailError e).message⟩,
      by simp [sendEntry, Eff.rescue_run, Eff.bind_run, hrun, BulkEmailResult.push], rfl⟩
  · exact ⟨⟨message.recipients.label, result.messageId, none⟩,
      by simp [sendEntry, Eff.rescue_run, Eff.bind_run, hrun, BulkEmailResult.push], rfl⟩

/-- The calls are at least `gap` apart, and over. -/
structure Spaced (gap : Nat) (w : World) : Prop where
  apart : w.calls.Pairwise fun a b => a.time + gap ≤ b.time
  passed : ∀ c ∈ w.calls, c.time ≤ w.clock

/-- The next call may be made. -/
structure Ready (gap : Nat) (w : World) : Prop where
  apart : w.calls.Pairwise fun a b => a.time + gap ≤ b.time
  free : ∀ c ∈ w.calls, c.time + gap ≤ w.clock

theorem ready_empty (gap : Nat) : Ready gap {} := ⟨List.Pairwise.nil, by simp⟩

theorem Ready.call {gap : Nat} {w : World} (h : Ready gap w) (env : Env) (input : SesSendInput) :
    Spaced gap ((callSes env input).run w).2 := by
  rw [callSes_run]
  refine ⟨?_, List.forall_mem_append.2 ⟨fun c hc => ?_, by simp⟩⟩
  · rw [List.pairwise_append]
    refine ⟨h.apart, List.pairwise_singleton _ _, ?_⟩
    simpa using h.free
  · have hfree := h.free c hc
    dsimp only
    omega

theorem Spaced.sleep {gap ms : Nat} {w : World} (h : Spaced gap w) (hle : gap ≤ ms) :
    Ready gap (w.sleep env ms) := by
  refine ⟨h.apart, fun c hc => ?_⟩
  have hpassed := h.passed c hc
  simp only [World.sleep]
  omega

theorem Spaced.count {gap : Nat} {w : World} (h : Spaced gap w) (ms : List Metric) :
    Spaced gap (w.count ms) := ⟨h.apart, h.passed⟩

/-- A backoff takes at least half of the first ceiling. -/
theorem hundred_le_delayMs (attempt : Nat) {factor : ℚ} (h : 1 / 2 ≤ factor) :
    100 ≤ delayMs attempt factor := by
  have hceiling : 200 ≤ ceiling attempt := by
    have hpow : 1 ≤ 2 ^ (attempt - 1) := Nat.one_le_two_pow
    rw [ceiling]
    omega
  have hcast : (200 : ℚ) ≤ ceiling attempt := by exact_mod_cast hceiling
  rw [delayMs]
  refine Nat.le_floor ?_
  push_cast
  nlinarith

theorem spaced_sendEmail {gap : Nat} {w : World} (h : Ready gap w) (hgap : gap ≤ 100) :
    Spaced gap ((sendEmail env config message).run w).2 := by
  have hretry : Spaced gap ((withRetry env config message).run w).2 := by
    have hcases : ∃ m u r t, Eff.Failing (callSes env (config.buildInput message))
        (fun e => (classifyEmailError e).retryable) (backOff env message.template) 1 w m u ∧
        (callSes env (config.buildInput message)).run u = (r, t) ∧
        (withRetry env config message).run w = (r, t) := by
      obtain ⟨m, u, r, t, hfailing, hcall, hresult, -⟩ := Eff.retrying_cases config.one_le 1 _ w
      exact ⟨m, u, r, t, hfailing, hcall, hresult⟩
    obtain ⟨m, u, r, t, hfailing, hcall, hresult⟩ := hcases
    have hu : Ready gap u := by
      refine hfailing.inv (J := fun _ v => Ready gap v) (fun k s e v hs hrun _ => ?_) h
      have hspaced : Spaced gap v := by
        have hcalled := hs.call env (config.buildInput message)
        rwa [hrun] at hcalled
      exact (hspaced.count _).sleep (hgap.trans (hundred_le_delayMs k (env.half_le _)))
    have hlast := hu.call env (config.buildInput message)
    rw [hcall] at hlast
    rwa [hresult]
  rcases hrun : (withRetry env config message).run w with ⟨e | a, u⟩
  · rw [hrun] at hretry
    simpa [sendEmail, Eff.bind_run, Eff.rescue_run, hrun, Eff.raise] using hretry.count _
  · rw [hrun] at hretry
    simpa [sendEmail, Eff.bind_run, Eff.rescue_run, hrun] using hretry.count _

theorem spaced_sendBulkFrom {gap : Nat} (hgap : gap ≤ 100) (hinterval : gap ≤ config.minIntervalMs)
    (messages : List EmailMessage) (soFar : BulkEmailResult) {w : World} (h : Ready gap w) :
    ((sendBulkFrom env config soFar messages).run w).2.calls.Pairwise
      fun a b => a.time + gap ≤ b.time := by
  induction messages generalizing soFar w with
  | nil => exact h.apart
  | cons message rest ih =>
      obtain ⟨entry, hrun, -⟩ := @sendEntry_spec env config message soFar w
      have hsent : Spaced gap ((sendEmail env config message).run w).2 := spaced_sendEmail h hgap
      cases rest with
      | nil =>
          rw [sendBulkFrom, hrun]
          exact hsent.apart
      | cons next rest =>
          rw [sendBulkFrom, Eff.bind_run, hrun]
          simpa [Eff.bind_run] using ih (soFar.push entry) (hsent.sleep hinterval)

/-- Of calls that are `gap` apart, a stretch of `width` sees no more than fit in. -/
theorem length_mul_lt {gap width : Nat} {calls : List SesCall} (hne : calls ≠ [])
    (h : calls.Pairwise fun a b => a.time + gap ≤ b.time) {since : Nat}
    (hin : ∀ c ∈ calls, since ≤ c.time ∧ c.time < since + width) :
    gap * (calls.length - 1) < width := by
  -- from whenever on the calls are, the last one still lies in the stretch
  have hlast : ∀ lo, (∀ c ∈ calls, lo ≤ c.time ∧ c.time < since + width) →
      lo + gap * (calls.length - 1) < since + width := by
    clear hin
    induction calls with
    | nil => contradiction
    | cons c rest ih =>
        intro lo hin
        rw [List.pairwise_cons] at h
        obtain ⟨hc, hrest⟩ := List.forall_mem_cons.1 hin
        cases rest with
        | nil =>
            simp only [List.length_cons, List.length_nil]
            omega
        | cons next rest =>
            have hmore := ih (List.cons_ne_nil _ _) h.2 (lo + gap) fun a ha =>
              ⟨(Nat.add_le_add_right hc.1 gap).trans (h.1 a ha), (hrest a ha).2⟩
            simp only [List.length_cons, Nat.add_sub_cancel] at hmore ⊢
            rw [Nat.mul_add, Nat.mul_one]
            omega
  have hall := hlast since hin
  omega

/-- **The rate holds for every call, retries included**, from ten messages a second on: no second
of a bulk send sees more calls than are configured. -/
theorem bulk_rate (hrate : 10 ≤ config.sendsPerSecond) (messages : List EmailMessage)
    (since : Nat) :
    ((sendBulkEmail env config messages).run {}).2.calls.countP
      (fun c => since ≤ c.time && c.time < since + 1000) ≤ config.sendsPerSecond := by
  have hmax : max 1 config.sendsPerSecond = config.sendsPerSecond := by omega
  have hgap : config.minIntervalMs ≤ 100 := by
    rw [EmailConfig.minIntervalMs, hmax]
    refine Nat.le_of_lt_succ (Nat.div_lt_of_lt_mul ?_)
    omega
  have hcovers : 1000 ≤ config.minIntervalMs * config.sendsPerSecond := by
    have hlt := Nat.lt_mul_div_succ (1000 + config.sendsPerSecond - 1)
      (Nat.lt_of_lt_of_le (by decide : 0 < 10) hrate)
    rw [EmailConfig.minIntervalMs, hmax, Nat.mul_comm]
    rw [Nat.mul_add, Nat.mul_one] at hlt
    omega
  have hapart : ((sendBulkEmail env config messages).run {}).2.calls.Pairwise
      fun a b => a.time + config.minIntervalMs ≤ b.time :=
    spaced_sendBulkFrom hgap (Nat.le_refl _) messages {} (ready_empty _)
  rw [List.countP_eq_length_filter]
  by_contra hmore
  rw [Nat.not_le] at hmore
  have hcount : config.minIntervalMs * (_ - 1) < 1000 :=
    length_mul_lt (List.ne_nil_of_length_pos (Nat.zero_lt_of_lt hmore))
      (hapart.sublist List.filter_sublist) fun c hc => by simpa using (List.mem_filter.1 hc).2
  have hle := Nat.mul_le_mul_left config.minIntervalMs (Nat.le_sub_one_of_lt hmore)
  omega

end

/-- A client whose first answer is to slow down, and a backoff as short as it gets. -/
def throttledOnce : Env where
  reply n _ := if n = 0 then .error { name := some "Throttling", text := "" } else .ok none
  latency _ := 10
  factor _ := 1 / 2
  lateness _ := 0
  half_le _ := by norm_num
  le_one _ := by norm_num

/-- A message to one reader. -/
def oneMessage : EmailMessage where
  recipients := .one "ada@example.com"
  subject := "Monitor down"
  html := "<p>down</p>"
  text := "down"

theorem bulk_rate_throttledOnce :
    10 ≤ 14 ∧ ((sendBulkEmail throttledOnce ⟨"alerts@uptimeflow.in", 3, 14, by decide, by decide⟩
      [oneMessage, oneMessage]).run {}).2.calls.countP
        (fun c => 0 ≤ c.time && c.time < 0 + 1000) ≤ 14 :=
  ⟨by decide, @bulk_rate throttledOnce ⟨"alerts@uptimeflow.in", 3, 14, by decide, by decide⟩
    (by decide) [oneMessage, oneMessage] 0⟩

/-- Below that rate, a retry comes sooner than the next message may. -/
example : ((sendBulkEmail throttledOnce ⟨"alerts@uptimeflow.in", 3, 1, by decide, by decide⟩
    [oneMessage]).run {}).2.calls.map (·.time) = [0, 110] := by decide +kernel

end UptimeFlow.Notifications.Ses
