/-
  Programs that ask questions.

  A dialogue is a program as a tree: it ends with a value or a failure, reports an entry, or asks a
  question and goes on with the answer.  Every path through the tree is finite, so a dialogue ends
  against every partner.  The questions of a dialogue and the type of the answer to each are a
  family `A : Q → Type`.

  1. **Running** - `Dialogue.run world` plays a dialogue against a world, a function of the
     questions and answers so far, and keeps a transcript of what was asked and reported.
  2. **Performing** - `Dialogue.perform` plays it in any monad: this is how the program meets files
     and servers.
  3. **Refining** - `Dialogue.via` answers each question by a dialogue of another kind.

  What a sequence of dialogues does is the sequence of what they do, up to the first failure:
  `run_bind`.
-/
import CloudRoster.Failure
import CloudRoster.Log.Basic

namespace CloudRoster

/-- A program that asks questions `q` with answers in `A q`. -/
inductive Dialogue {Q : Type} (A : Q → Type) (α : Type) where
  | done (a : α)
  | fail (e : Failure)
  | report (e : Log.Entry) (next : Dialogue A α)
  | ask (q : Q) (next : A q → Dialogue A α)

namespace Dialogue

variable {Q R : Type} {A : Q → Type} {B : R → Type} {α β γ : Type}

/-! ## Sequencing -/

/-- Goes on with `f` where `d` ends with a value. -/
def andThen (d : Dialogue A α) (f : α → Dialogue A β) : Dialogue A β :=
  match d with
  | .done a => f a
  | .fail e => .fail e
  | .report e next => .report e (next.andThen f)
  | .ask q next => .ask q fun a => (next a).andThen f

instance : Monad (Dialogue A) where
  pure := .done
  bind := andThen

@[simp] theorem pure_def (a : α) : (pure a : Dialogue A α) = .done a := rfl

@[simp] theorem done_bind (a : α) (f : α → Dialogue A β) :
    ((.done a : Dialogue A α) >>= f) = f a := rfl

@[simp] theorem fail_bind (e : Failure) (f : α → Dialogue A β) :
    ((.fail e : Dialogue A α) >>= f) = .fail e := rfl

@[simp] theorem report_bind (e : Log.Entry) (d : Dialogue A α) (f : α → Dialogue A β) :
    ((.report e d : Dialogue A α) >>= f) = .report e (d >>= f) := rfl

@[simp] theorem ask_bind (q : Q) (next : A q → Dialogue A α) (f : α → Dialogue A β) :
    ((.ask q next : Dialogue A α) >>= f) = .ask q fun a => next a >>= f := rfl

theorem bind_done (d : Dialogue A α) : (d >>= .done) = d := by
  induction d with
  | done a => rfl
  | fail e => rfl
  | report e next ih => rw [report_bind, ih]
  | ask q next ih => rw [ask_bind]; exact congrArg _ (funext ih)

theorem bind_bind (d : Dialogue A α) (f : α → Dialogue A β) (g : β → Dialogue A γ) :
    (d >>= f >>= g) = d >>= fun a => f a >>= g := by
  induction d with
  | done a => rfl
  | fail e => rfl
  | report e next ih => rw [report_bind, report_bind, report_bind, ih]
  | ask q next ih => rw [ask_bind, ask_bind, ask_bind]; exact congrArg _ (funext ih)

instance : LawfulMonad (Dialogue A) := LawfulMonad.mk' (Dialogue A)
  (fun d => bind_done d) (fun _ _ => rfl) (fun d f g => bind_bind d f g)

/-! ## Single steps -/

/-- Asks one question. -/
def question (q : Q) : Dialogue A (A q) := .ask q .done

/-- Goes on with a value, or fails. -/
def orFail : Except Failure α → Dialogue A α
  | .ok a => .done a
  | .error e => .fail e

/-- Reports one entry. -/
def say (e : Log.Entry) : Dialogue A Unit := .report e (.done ())

/-- Reports entries in order. -/
def sayAll : List Log.Entry → Dialogue A Unit
  | [] => .done ()
  | e :: es => .report e (sayAll es)

/-- Reports what was found out on the way to a value. -/
def tell (l : Log.Logged α) : Dialogue A α := do
  sayAll l.entries
  return l.value

/-- A dialogue that ends with the failure instead of failing, so that what follows can tell it. -/
def attempt : Dialogue A α → Dialogue A (Except Failure α)
  | .done a => .done (.ok a)
  | .fail e => .done (.error e)
  | .report e next => .report e next.attempt
  | .ask q next => .ask q fun a => (next a).attempt

/-- A dialogue without its reports. -/
def silent : Dialogue A α → Dialogue A α
  | .done a => .done a
  | .fail e => .fail e
  | .report _ next => next.silent
  | .ask q next => .ask q fun a => (next a).silent

/-! ## Running -/

/-- A question and the answer to it. -/
structure Exchange {Q : Type} (A : Q → Type) where
  question : Q
  answer : A question

/-- What answers questions, knowing all that was asked and answered before. -/
abbrev World {Q : Type} (A : Q → Type) := List (Exchange A) → (q : Q) → A q

/-- How a dialogue went. -/
structure Transcript {Q : Type} (A : Q → Type) (α : Type) where
  result : Except Failure α
  exchanges : List (Exchange A)
  entries : List Log.Entry

/-- Plays a dialogue against a world in which `past` has happened.  The transcript holds what
    happens from then on. -/
def run (world : World A) (past : List (Exchange A)) : Dialogue A α → Transcript A α
  | .done a => ⟨.ok a, [], []⟩
  | .fail e => ⟨.error e, [], []⟩
  | .report e next =>
    let t := next.run world past
    ⟨t.result, t.exchanges, e :: t.entries⟩
  | .ask q next =>
    let x : Exchange A := ⟨q, world past q⟩
    let t := (next x.answer).run world (past ++ [x])
    ⟨t.result, x :: t.exchanges, t.entries⟩

/-- What happens in `s` and then, if it has a value, what happens in `f` of it. -/
def Transcript.andThen (s : Transcript A α) (f : α → Transcript A β) : Transcript A β :=
  match s.result with
  | .ok a => ⟨(f a).result, s.exchanges ++ (f a).exchanges, s.entries ++ (f a).entries⟩
  | .error e => ⟨.error e, s.exchanges, s.entries⟩

theorem Transcript.andThen_error {s : Transcript A α} {e : Failure} (h : s.result = .error e)
    (f : α → Transcript A β) : s.andThen f = ⟨.error e, s.exchanges, s.entries⟩ := by
  rw [andThen, h]

theorem run_bind (world : World A) (past : List (Exchange A)) (d : Dialogue A α)
    (f : α → Dialogue A β) :
    (d >>= f).run world past =
      (d.run world past).andThen fun a =>
        (f a).run world (past ++ (d.run world past).exchanges) := by
  induction d generalizing past with
  | done a => simp [run, Transcript.andThen]
  | fail e => simp [run, Transcript.andThen]
  | report e next ih =>
    -- whether the first part ends with a value decides whether `f` is played at all
    simp only [report_bind, run, ih]
    cases h : (next.run world past).result <;> simp [Transcript.andThen, h]
  | ask q next ih =>
    simp only [ask_bind, run, ih]
    cases h : ((next (world past q)).run world (past ++ [⟨q, world past q⟩])).result <;>
      simp [Transcript.andThen, h]

/-- What a dialogue asks is asked first, whatever follows it. -/
theorem exists_exchanges_bind (world : World A) (past : List (Exchange A)) (d : Dialogue A α)
    (f : α → Dialogue A β) :
    ∃ more, ((d >>= f).run world past).exchanges = (d.run world past).exchanges ++ more := by
  rw [run_bind, Transcript.andThen]
  cases (d.run world past).result with
  | ok a => exact ⟨_, rfl⟩
  | error e => exact ⟨[], (List.append_nil _).symm⟩

/-- A function of the value changes nothing but the value. -/
theorem run_bind_pure (world : World A) (past : List (Exchange A)) (d : Dialogue A α) (f : α → β) :
    (d >>= fun a => pure (f a)).run world past =
      ⟨(d.run world past).result.map f, (d.run world past).exchanges,
        (d.run world past).entries⟩ := by
  rw [run_bind, Transcript.andThen]
  cases (d.run world past).result <;> simp [run, Except.map]

@[simp] theorem run_question (world : World A) (past : List (Exchange A)) (q : Q) :
    (question q : Dialogue A (A q)).run world past =
      ⟨.ok (world past q), [⟨q, world past q⟩], []⟩ := rfl

@[simp] theorem run_orFail (world : World A) (past : List (Exchange A)) (r : Except Failure α) :
    (orFail r : Dialogue A α).run world past = ⟨r, [], []⟩ := by
  cases r <;> rfl

/-- A look at the value changes nothing but the result. -/
theorem run_bind_orFail (world : World A) (past : List (Exchange A)) (d : Dialogue A α)
    (f : α → Except Failure β) :
    (d >>= fun a => orFail (f a)).run world past =
      ⟨(d.run world past).result.bind f, (d.run world past).exchanges,
        (d.run world past).entries⟩ := by
  rw [run_bind, Transcript.andThen]
  cases (d.run world past).result <;> simp [Except.bind]

@[simp] theorem run_say (world : World A) (past : List (Exchange A)) (e : Log.Entry) :
    (say e : Dialogue A Unit).run world past = ⟨.ok (), [], [e]⟩ := rfl

@[simp] theorem run_sayAll (world : World A) (past : List (Exchange A)) (es : List Log.Entry) :
    (sayAll es : Dialogue A Unit).run world past = ⟨.ok (), [], es⟩ := by
  induction es with
  | nil => rfl
  | cons e es ih => simp [sayAll, run, ih]

@[simp] theorem run_tell (world : World A) (past : List (Exchange A)) (l : Log.Logged α) :
    (tell l : Dialogue A α).run world past = ⟨.ok l.value, [], l.entries⟩ := by
  simp [tell, run_bind, Transcript.andThen, run]

@[simp] theorem run_attempt (world : World A) (past : List (Exchange A)) (d : Dialogue A α) :
    d.attempt.run world past =
      ⟨.ok (d.run world past).result, (d.run world past).exchanges,
        (d.run world past).entries⟩ := by
  induction d generalizing past with
  | done a => rfl
  | fail e => rfl
  | report e next ih => simp [attempt, run, ih]
  | ask q next ih => simp [attempt, run, ih]

@[simp] theorem run_silent (world : World A) (past : List (Exchange A)) (d : Dialogue A α) :
    d.silent.run world past =
      ⟨(d.run world past).result, (d.run world past).exchanges, []⟩ := by
  induction d generalizing past with
  | done a => rfl
  | fail e => rfl
  | report e next ih => simp [silent, run, ih]
  | ask q next ih => simp [silent, run, ih]

/-! ## Performing -/

/-- Plays a dialogue in a monad. -/
def perform {m : Type → Type} [Monad m] (answer : (q : Q) → m (A q)) (write : Log.Entry → m Unit) :
    Dialogue A α → m (Except Failure α)
  | .done a => pure (.ok a)
  | .fail e => pure (.error e)
  | .report e next => do
    write e
    next.perform answer write
  | .ask q next => do
    let a ← answer q
    (next a).perform answer write

/-! ## Refining -/

/-- Answers each question by a dialogue of another kind. -/
def via (h : (q : Q) → Dialogue B (A q)) : Dialogue A α → Dialogue B α
  | .done a => .done a
  | .fail e => .fail e
  | .report e next => .report e (next.via h)
  | .ask q next => h q >>= fun a => (next a).via h

theorem via_bind (h : (q : Q) → Dialogue B (A q)) (d : Dialogue A α) (f : α → Dialogue A β) :
    (d >>= f).via h = d.via h >>= fun a => (f a).via h := by
  induction d with
  | done a => rfl
  | fail e => rfl
  | report e next ih => simp [via, ih]
  | ask q next ih => simp [via, ih]

@[simp] theorem via_question (h : (q : Q) → Dialogue B (A q)) (q : Q) :
    (question q : Dialogue A (A q)).via h = h q := bind_done (h q)

@[simp] theorem via_orFail (h : (q : Q) → Dialogue B (A q)) (r : Except Failure α) :
    (orFail r : Dialogue A α).via h = orFail r := by
  cases r <;> rfl

@[simp] theorem via_say (h : (q : Q) → Dialogue B (A q)) (e : Log.Entry) :
    (say e : Dialogue A Unit).via h = say e := rfl

@[simp] theorem via_sayAll (h : (q : Q) → Dialogue B (A q)) (es : List Log.Entry) :
    (sayAll es : Dialogue A Unit).via h = sayAll es := by
  induction es with
  | nil => rfl
  | cons e es ih => exact congrArg (report e) ih

@[simp] theorem via_tell (h : (q : Q) → Dialogue B (A q)) (l : Log.Logged α) :
    (tell l : Dialogue A α).via h = tell l := by
  rw [tell, via_bind, via_sayAll]
  rfl

/-- A failure that is told and then failed with was no more than a failure. -/
theorem attempt_bind_orFail (d : Dialogue A α) : (d.attempt >>= orFail) = d := by
  induction d with
  | done a => rfl
  | fail e => rfl
  | report e next ih => exact congrArg (report e) ih
  | ask q next ih => exact congrArg (ask q) (funext ih)

/-- If each question that is asked gets the answer of `answer` from its dialogue, without a report,
    then the dialogues of another kind are not to be noticed in what comes out. -/
theorem run_via (h : (q : Q) → Dialogue B (A q)) (answer : (q : Q) → A q) (world : World B)
    (d : Dialogue A α) (past : List (Exchange A)) (past' : List (Exchange B))
    (honest : ∀ x ∈ (d.run (fun _ q => answer q) past).exchanges, ∀ past', ∃ xs,
      (h x.question).run world past' = ⟨.ok (answer x.question), xs, []⟩) :
    ((d.via h).run world past').result = (d.run (fun _ q => answer q) past).result ∧
      ((d.via h).run world past').entries = (d.run (fun _ q => answer q) past).entries := by
  induction d generalizing past past' with
  | done a => exact ⟨rfl, rfl⟩
  | fail e => exact ⟨rfl, rfl⟩
  | report e next ih =>
    obtain ⟨hresult, hentries⟩ := ih past past' honest
    exact ⟨hresult, congrArg (e :: ·) hentries⟩
  | ask q next ih =>
    obtain ⟨xs, hxs⟩ := honest ⟨q, answer q⟩ List.mem_cons_self past'
    rw [via, run_bind, hxs]
    exact ih (answer q) (past ++ [⟨q, answer q⟩]) (past' ++ xs)
      fun x hx => honest x (List.mem_cons_of_mem _ hx)

end Dialogue

end CloudRoster
