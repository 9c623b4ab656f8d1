import OmniSupport.Auth.LoginCalls

/-! The progressive lockout under concurrent guesses. The counter is read before the hash and
written after it, so the failures are counted one by one only when no other failure is
recorded in between. -/
namespace OmniSupport.Auth
open Foundation
namespace LoginCalls
variable {crypto : AuthCrypto}

/-- The call waits to write a failure. -/
def Recording : LoginCall → Prop
  | .recording .. => True
  | _ => False

instance : DecidablePred Recording
  | .recording .. => isTrue trivial
  | .idle | .finding _ | .checking .. | .verifying .. | .allowing .. | .accepting .. | .refused _
  | .accepted _ => isFalse id

/-- An unlocked copy has the counter and the lock as stored, and no failure that was evaluated
before waits to be written. -/
def Current (c : Pool LoginStore LoginCall × List Guess) : LoginCall → Prop
  | .verifying _ (some user) checkedAt => AuthService.isLocked checkedAt user = false →
      user.failedLoginAttempts = c.1.shared.account.failedLoginAttempts ∧
      user.lockedUntil = c.1.shared.account.lockedUntil ∧
      ∀ guess ∈ c.2, ¬ Recording (c.1.locals guess.call)
  | _ => True

/-- No guess runs into another one: each is evaluated with the row as it is. -/
def Undisturbed (c : Pool LoginStore LoginCall × List Guess) : Move LoginStep LoginMove → Prop
  | .act p .next => Current c (c.1.locals p)
  | _ => True

instance (c : Pool LoginStore LoginCall × List Guess) : DecidablePred (Current c)
  | .verifying _ (some user) checkedAt =>
    inferInstanceAs (Decidable (AuthService.isLocked checkedAt user = false →
      user.failedLoginAttempts = c.1.shared.account.failedLoginAttempts ∧
      user.lockedUntil = c.1.shared.account.lockedUntil ∧
      ∀ guess ∈ c.2, ¬ Recording (c.1.locals guess.call)))
  | .verifying _ none _ | .idle | .finding _ | .checking .. | .recording .. | .allowing ..
  | .accepting .. | .refused _ | .accepted _ => isTrue trivial

instance (c : Pool LoginStore LoginCall × List Guess) : DecidablePred (Undisturbed c)
  | .act p .next => inferInstanceAs (Decidable (Current c (c.1.locals p)))
  | .act _ (.login _) | .env _ => isTrue trivial

/-- The password of a call is wrong for the account. -/
def WrongPassword (crypto : AuthCrypto) (account : User) : Move LoginStep LoginMove → Prop
  | .act _ (.login dto) => isValidPassword crypto (some account) dto.password = false
  | _ => True

/-- The lock the counted guesses have set. -/
def lockAfter (account : User) : List Guess → Option Time
  | [] => account.lockedUntil
  | guess :: earlier =>
    let attempt := account.failedLoginAttempts + (earlier.length + 1)
    if lockoutThreshold ≤ attempt then
      some (guess.failedAt + AuthService.lockoutMinutes attempt * 60 * 1000)
    else lockAfter account earlier

/-- Every guess was checked when the lock of the ones before had run out. -/
def Spaced (account : User) : List Guess → Prop
  | [] => True
  | guess :: earlier =>
    (∀ lockedUntil ∈ lockAfter account earlier, lockedUntil ≤ guess.checkedAt) ∧
      Spaced account earlier

/-- The stored row after the guesses `counted`. -/
structure Counted (account : User) (s : LoginStore) (counted : List Guess) : Prop where
  passwordHash : s.account.passwordHash = account.passwordHash
  attempts : s.account.failedLoginAttempts = account.failedLoginAttempts + counted.length
  lock : s.account.lockedUntil = lockAfter account counted

/-- What a call of a client without the password can look like. -/
def Guessing (crypto : AuthCrypto) (account : User) : LoginCall → Prop
  | .idle | .refused _ => True
  | .finding dto => isValidPassword crypto (some account) dto.password = false
  | .checking dto found | .verifying dto found _ =>
    isValidPassword crypto (some account) dto.password = false ∧
      ∀ user ∈ found, user.passwordHash = account.passwordHash
  | .recording _ _ => True
  | .allowing .. | .accepting .. | .accepted _ => False

/-- Either every guess is counted, or the newest one waits for its update, which alone has
read the counter as it is. -/
def Progress (account : User) (c : Pool LoginStore LoginCall) (log : List Guess) : Prop :=
  (Counted account c.shared log ∧ ∀ p, ¬ Recording (c.locals p)) ∨
  ∃ guess earlier user, log = guess :: earlier ∧ Counted account c.shared earlier ∧
    c.locals guess.call = .recording user guess.failedAt ∧
    user.failedLoginAttempts = c.shared.account.failedLoginAttempts ∧
    ∀ q, q ≠ guess.call → ¬ Recording (c.locals q)

structure Inv (crypto : AuthCrypto) (account : User)
    (c : Pool LoginStore LoginCall × List Guess) : Prop where
  calls : ∀ p, Guessing crypto account (c.1.locals p)
  spaced : Spaced account c.2
  progress : Progress account c.1 c.2

section
variable {account : User} {c c' : Pool LoginStore LoginCall × List Guess}
  {s s' : LoginStore} {l l' : LoginCall} {log : List Guess}

/-- A wrong password is refused at once, or counted as a guess at an unlocked account. -/
theorem judge_wrong (dto : LoginDto) (user : User) (now checkedAt : Time) :
    (∃ e, judge dto now (AuthService.credentials (some user) checkedAt false) = .refused e) ∨
    (AuthService.isLocked checkedAt user = false ∧
      judge dto now (AuthService.credentials (some user) checkedAt false) =
        .recording user now) := by
  by_cases hblocked : (!AuthService.hasPassword user || AuthService.isLocked checkedAt user) = true
  · exact Or.inl ⟨.unauthorized "Invalid email or password",
      by simp [AuthService.credentials, hblocked, judge]⟩
  · have hopen : AuthService.isLocked checkedAt user = false := by
      simp only [Bool.or_eq_true, not_or, Bool.not_eq_true] at hblocked
      exact hblocked.2
    exact Or.inr ⟨hopen, by simp [AuthService.credentials, hblocked, judge]⟩

/-- What one step of a guessing call does. -/
theorem next_cases (hl : Guessing crypto account l)
    (hstored : s.account.passwordHash = account.passwordHash)
    (h : next crypto s l = some (s', l')) :
    (s' = s ∧ Guessing crypto account l' ∧ ¬ Recording l' ∧ ¬ Recording l) ∨
    (∃ dto user checkedAt, l = .verifying dto (some user) checkedAt ∧
      AuthService.isLocked checkedAt user = false ∧ s' = s ∧ l' = .recording user s.now) ∨
    ∃ user failedAt e, l = .recording user failedAt ∧ l' = .refused e ∧ s' = { s with
      account := AuthService.failedLogin (user.failedLoginAttempts + 1) failedAt s.now
        s.account } := by
  cases l with
  | idle => cases h
  | refused e => cases h
  | allowing | accepting | accepted => cases hl
  | finding dto =>
    cases h
    refine Or.inl ⟨rfl, ⟨hl, fun user huser => ?_⟩, id, id⟩
    simp only [LoginStore.findUserByEmail, Option.mem_def] at huser
    split at huser <;> cases huser
    exact hstored
  | checking dto found =>
    cases h
    exact Or.inl ⟨rfl, hl, id, id⟩
  | recording user failedAt =>
    cases h
    exact Or.inr (Or.inr ⟨user, failedAt, _, rfl, rfl, rfl⟩)
  | verifying dto found checkedAt =>
    simp only [next, Option.some.injEq, Prod.mk.injEq] at h
    obtain ⟨rfl, rfl⟩ := h
    obtain ⟨hwrong, hhash⟩ := hl
    cases found with
    | none => exact Or.inl ⟨rfl, trivial, id, id⟩
    | some user =>
      have hinvalid : isValidPassword crypto (some user) dto.password = false := by
        rw [← hwrong]
        simp [isValidPassword, hhash user rfl]
      rw [hinvalid]
      rcases judge_wrong dto user s.now checkedAt with ⟨e, he⟩ | ⟨hopen, he⟩
      · rw [he]
        exact Or.inl ⟨rfl, trivial, id, id⟩
      · rw [he]
        exact Or.inr (Or.inl ⟨dto, user, checkedAt, rfl, hopen, rfl, rfl⟩)

theorem not_recording_of_put {c : Pool LoginStore LoginCall} {p q : Nat}
    (hl' : ¬ Recording l') (h : q ≠ p → ¬ Recording (c.locals q)) :
    ¬ Recording ((c.put p s' l').locals q) := by
  by_cases hq : q = p
  · subst hq
    rwa [Pool.put_locals_self]
  · rw [Pool.put_locals_of_ne _ _ _ hq]
    exact h hq

/-- A step of a call that neither starts nor ends a recording keeps the progress. -/
theorem progress_put {c : Pool LoginStore LoginCall} {p : Nat} (hl : ¬ Recording (c.locals p))
    (hl' : ¬ Recording l') (h : Progress account c log) :
    Progress account (c.put p c.shared l') log := by
  rcases h with ⟨hcounted, hnone⟩ | ⟨guess, earlier, user, hlog, hcounted, hcall, hread, hothers⟩
  · exact Or.inl ⟨hcounted, fun q => not_recording_of_put hl' fun _ => hnone q⟩
  · have hne : guess.call ≠ p := by
      intro he
      rw [← he, hcall] at hl
      exact hl trivial
    refine Or.inr ⟨guess, earlier, user, hlog, hcounted, ?_, hread, fun q hq =>
      not_recording_of_put hl' fun _ => hothers q hq⟩
    rw [Pool.put_locals_of_ne _ _ _ hne]
    exact hcall

theorem progress_hash {c : Pool LoginStore LoginCall} (h : Progress account c log) :
    c.shared.account.passwordHash = account.passwordHash := by
  rcases h with ⟨hcounted, -⟩ | ⟨_, _, _, -, hcounted, -⟩
  · exact hcounted.passwordHash
  · exact hcounted.passwordHash

/-- When none of the guesses waits, they are all counted. -/
theorem progress_settled {c : Pool LoginStore LoginCall} (h : Progress account c log)
    (hnone : ∀ guess ∈ log, ¬ Recording (c.locals guess.call)) :
    Counted account c.shared log ∧ ∀ p, ¬ Recording (c.locals p) := by
  rcases h with hsettled | ⟨guess, earlier, user, rfl, -, hcall, -⟩
  · exact hsettled
  · have hguess := hnone guess List.mem_cons_self
    rw [hcall] at hguess
    exact absurd trivial hguess

/-- An undisturbed guess has read the counter that counts all earlier ones. -/
theorem progress_guess {c : Pool LoginStore LoginCall} {p : Nat} {user : User} {checkedAt t : Time}
    (hcounted : Counted account c.shared log) (hnone : ∀ q, ¬ Recording (c.locals q))
    (hread : user.failedLoginAttempts = c.shared.account.failedLoginAttempts) :
    Progress account (c.put p c.shared (.recording user t)) (⟨p, checkedAt, t⟩ :: log) := by
  refine Or.inr ⟨⟨p, checkedAt, t⟩, log, user, rfl, hcounted, Pool.put_locals_self .., hread,
    fun q hq => ?_⟩
  rw [Pool.put_locals_of_ne _ _ _ hq]
  exact hnone q

/-- The update that counts a failure is the one the newest guess has been waiting for. -/
theorem progress_record {c : Pool LoginStore LoginCall} {p : Nat} {user : User} {t : Time}
    {e : AppError} (h : Progress account c log) (hl : c.locals p = .recording user t) :
    Progress account (c.put p { c.shared with
      account := AuthService.failedLogin (user.failedLoginAttempts + 1) t c.shared.now
        c.shared.account } (.refused e)) log := by
  have hrecording : Recording (c.locals p) := by
    rw [hl]
    trivial
  rcases h with ⟨-, hnone⟩ | ⟨guess, earlier, user', rfl, hcounted, hcall, hread, hothers⟩
  · exact absurd hrecording (hnone p)
  · have hp : p = guess.call := by
      by_contra hne
      exact hothers p hne hrecording
    rw [← hp, hl] at hcall
    cases hcall
    have hattempt : user.failedLoginAttempts + 1 =
        account.failedLoginAttempts + (earlier.length + 1) := by
      rw [hread, hcounted.attempts]
      omega
    refine Or.inl ⟨⟨hcounted.passwordHash, hattempt, ?_⟩, fun q => not_recording_of_put id ?_⟩
    · simp only [AuthService.failedLogin, lockAfter, hattempt, hcounted.lock, Pool.put_shared]
    · exact fun hq => hothers q (hp ▸ hq)

/-- A guess at an unlocked copy comes when the lock it has read is over. -/
theorem spaced_guess {user : User} {p : Nat} {checkedAt t : Time} (h : Spaced account log)
    (hlock : user.lockedUntil = lockAfter account log)
    (hopen : AuthService.isLocked checkedAt user = false) :
    Spaced account (⟨p, checkedAt, t⟩ :: log) := by
  refine ⟨fun lockedUntil hlocked => ?_, h⟩
  rw [← hlock, Option.mem_def] at hlocked
  simpa [AuthService.isLocked, hlocked] using hopen

theorem progress_tick {c : Pool LoginStore LoginCall} {ms : Nat} (h : Progress account c log) :
    Progress account { c with shared := { c.shared with now := c.shared.now + ms } } log := by
  rcases h with ⟨hcounted, hnone⟩ | ⟨guess, earlier, user, hlog, hcounted, hcall, hread, hothers⟩
  · exact Or.inl ⟨⟨hcounted.passwordHash, hcounted.attempts, hcounted.lock⟩, hnone⟩
  · exact Or.inr ⟨guess, earlier, user, hlog,
      ⟨hcounted.passwordHash, hcounted.attempts, hcounted.lock⟩, hcall, hread, hothers⟩

theorem inv_put {c : Pool LoginStore LoginCall} {log' : List Guess} {p : Nat}
    (h : Inv crypto account (c, log)) (hl' : Guessing crypto account l')
    (hspaced : Spaced account log') (hprogress : Progress account (c.put p s' l') log') :
    Inv crypto account (c.put p s' l', log') where
  calls q := by
    by_cases hq : q = p
    · subst hq
      rw [Pool.put_locals_self]
      exact hl'
    · rw [Pool.put_locals_of_ne _ _ _ hq]
      exact h.calls q
  spaced := hspaced
  progress := hprogress

theorem guessed_of_not_recording {c c' : Pool LoginStore LoginCall} {p : Nat}
    (hl' : ¬ Recording (c'.locals p)) : guessed c (.act p .next) c' = [] := by
  simp only [guessed]
  split
  · rename_i he
    rw [he] at hl'
    exact absurd trivial hl'
  · rfl

theorem inv_next {c : Pool LoginStore LoginCall} {p : Nat} (h : Inv crypto account (c, log))
    (hundisturbed : Undisturbed (c, log) (.act p .next))
    (hnext : next crypto c.shared (c.locals p) = some (s', l')) :
    Inv crypto account (c.put p s' l', guessed c (.act p .next) (c.put p s' l') ++ log) := by
  have hlocal : (c.put p s' l').locals p = l' := Pool.put_locals_self ..
  have hcall : Guessing crypto account (c.locals p) := h.calls p
  have hhash : c.shared.account.passwordHash = account.passwordHash := progress_hash h.progress
  rcases next_cases hcall hhash hnext with
    ⟨rfl, hguessing, hl', hl⟩ | ⟨dto, user, checkedAt, hl, hopen, rfl, rfl⟩ |
    ⟨user, failedAt, e, hl, rfl, rfl⟩
  · rw [guessed_of_not_recording (by rwa [hlocal]), List.nil_append]
    exact inv_put h hguessing h.spaced (progress_put hl hl' h.progress)
  · have hcurrent : Current (c, log) (c.locals p) := hundisturbed
    rw [hl] at hcurrent
    obtain ⟨hread, hlock, hnone⟩ := hcurrent hopen
    obtain ⟨hcounted, hquiet⟩ := progress_settled h.progress hnone
    have hguessed : guessed c (.act p .next) (c.put p c.shared (.recording user c.shared.now)) =
        [⟨p, checkedAt, c.shared.now⟩] := by
      simp only [guessed, hl, hlocal]
    rw [hguessed]
    exact inv_put h trivial (spaced_guess h.spaced (hlock.trans hcounted.lock) hopen)
      (progress_guess hcounted hquiet hread)
  · rw [guessed_of_not_recording (by rw [hlocal]; exact id), List.nil_append]
    exact inv_put h trivial h.spaced (progress_record h.progress hl)

theorem inv_step {i : Move LoginStep LoginMove} (h : Inv crypto account c)
    (hundisturbed : Undisturbed c i) (hwrong : WrongPassword crypto account i)
    (hstep : (guesses crypto).step c i = some c') : Inv crypto account c' := by
  obtain ⟨hmachine, hlog⟩ := Machine.logged_step.mp hstep
  cases i with
  | env e =>
    cases e with
    | tick ms =>
      obtain ⟨c₁, log₁⟩ := c'
      cases hmachine
      obtain rfl : log₁ = c.2 := hlog
      exact ⟨h.calls, h.spaced, progress_tick h.progress⟩
  | act p step =>
    obtain ⟨s', l', hact, he⟩ := (program crypto).step_act.mp hmachine
    obtain ⟨c₁, log₁⟩ := c'
    obtain rfl : c₁ = c.1.put p s' l' := he
    obtain rfl : log₁ = guessed c.1 (.act p step) (c.1.put p s' l') ++ c.2 := hlog
    cases step with
    | next => exact inv_next h hundisturbed hact
    | login dto =>
      have hlogin : act crypto c.1.shared (c.1.locals p) (.login dto) = some (s', l') := hact
      simp only [act] at hlogin
      split at hlogin <;> cases hlogin
      rename_i hidle
      exact inv_put h hwrong h.spaced (progress_put (by rw [hidle]; exact id) id h.progress)

theorem inv_init (account : User) (tenants : List Tenant) (now : Time) :
    Inv crypto account (init account tenants now, []) where
  calls _ := trivial
  spaced := trivial
  progress := Or.inl ⟨⟨rfl, rfl, rfl⟩, fun _ => id⟩

theorem spaced_append {account : User} {newer log : List Guess} (h : Spaced account (newer ++ log)) :
    Spaced account log := by
  induction newer with
  | nil => exact h
  | cons guess newer ih => exact ih h.2

end

/-- Wrong guesses that do not run into each other are counted one by one, and from the fifth
failure on each one locks the account for 1, 2, 4, 8 and then 15 minutes: no later guess is
evaluated before that. -/
theorem lockout_counts (crypto : AuthCrypto) (account : User) (tenants : List Tenant) (now : Time)
    (is : List (Move LoginStep LoginMove)) (hwrong : ∀ i ∈ is, WrongPassword crypto account i)
    (c : Pool LoginStore LoginCall) (log : List Guess)
    (hundisturbed : (guesses crypto).Within Undisturbed (init account tenants now, []) is)
    (hrun : (guesses crypto).run (init account tenants now, []) is = some (c, log)) :
    ((∃ p, Recording (c.locals p)) → c.shared.account.failedLoginAttempts + 1 =
        account.failedLoginAttempts + log.length) ∧
    ((∀ p, ¬ Recording (c.locals p)) → c.shared.account.failedLoginAttempts =
        account.failedLoginAttempts + log.length ∧
      ∀ guess earlier, log = guess :: earlier →
        5 ≤ c.shared.account.failedLoginAttempts → c.shared.account.lockedUntil =
          some (guess.failedAt +
            min (Nat.pow 2 (c.shared.account.failedLoginAttempts - 5)) 15 * 60 * 1000)) ∧
    ∀ newer guess last earlier, log = newer ++ guess :: last :: earlier →
      ∀ attempt, attempt = account.failedLoginAttempts + (earlier.length + 1) → 5 ≤ attempt →
        last.failedAt + min (Nat.pow 2 (attempt - 5)) 15 * 60 * 1000 ≤ guess.checkedAt := by
  have h : Inv crypto account (c, log) :=
    (guesses crypto).run_preserves_within (fun _ _ _ h hi hs => inv_step h hi.1 hi.2 hs)
      (inv_init account tenants now) (hundisturbed.and_labels _ hwrong) hrun
  have hprogress : Progress account c log := h.progress
  refine ⟨?_, fun hnone => ?_, ?_⟩
  · rintro ⟨p, hp⟩
    rcases hprogress with ⟨-, hnone⟩ | ⟨guess, earlier, user, rfl, hcounted, -⟩
    · exact absurd hp (hnone p)
    · rw [hcounted.attempts, List.length_cons]
      omega
  · have hcounted := (progress_settled hprogress fun guess _ => hnone guess.call).1
    refine ⟨hcounted.attempts, fun guess earlier hlog hfifth => ?_⟩
    have hattempts : c.shared.account.failedLoginAttempts =
        account.failedLoginAttempts + (earlier.length + 1) := by
      rw [hcounted.attempts, hlog, List.length_cons]
    have hlock : c.shared.account.lockedUntil = lockAfter account (guess :: earlier) :=
      hlog ▸ hcounted.lock
    rw [hlock, lockAfter, ← hattempts, if_pos (show lockoutThreshold ≤ _ from hfifth)]
    rfl
  · intro newer guess last earlier hlog attempt hattempt hfifth
    have hspaced : Spaced account (newer ++ guess :: last :: earlier) := hlog ▸ h.spaced
    refine (spaced_append hspaced).1 _ ?_
    rw [Option.mem_def, lockAfter, ← hattempt, if_pos (show lockoutThreshold ≤ _ from hfifth)]
    rfl

def guessedAccount : User :=
  { (default : User) with
    id := 1, email := "ann@example.com", passwordHash := some "secret", failedLoginAttempts := 4 }

def wrongLogin : LoginDto := ⟨"ann@example.com", "guess", none, none⟩

/-- The fifth failure. -/
def fifthFailure : List (Move LoginStep LoginMove) :=
  [.act 0 (.login wrongLogin), .act 0 .next, .act 0 .next, .act 0 .next, .act 0 .next]

theorem lockout_counts_fifth : ∃ c log,
    (guesses sampleCrypto).run (init guessedAccount [] 0, []) fifthFailure = some (c, log) ∧
    ((∀ p, ¬ Recording (c.locals p)) → c.shared.account.failedLoginAttempts =
        guessedAccount.failedLoginAttempts + log.length ∧
      ∀ guess earlier, log = guess :: earlier →
        5 ≤ c.shared.account.failedLoginAttempts → c.shared.account.lockedUntil =
          some (guess.failedAt +
            min (Nat.pow 2 (c.shared.account.failedLoginAttempts - 5)) 15 * 60 * 1000)) := by
  have hsome : ((guesses sampleCrypto).run (init guessedAccount [] 0, []) fifthFailure).isSome := by
    decide
  obtain ⟨⟨c, log⟩, hc⟩ := Option.isSome_iff_exists.mp hsome
  have hwrong : ∀ i ∈ fifthFailure, WrongPassword sampleCrypto guessedAccount i := by
    simp [fifthFailure, WrongPassword, isValidPassword, sampleCrypto, guessedAccount, wrongLogin]
  exact ⟨c, log, hc, (lockout_counts sampleCrypto guessedAccount [] 0 fifthFailure hwrong c log
    (by decide) hc).2.1⟩

/-- Two guesses that read the row before either failure is written. -/
def overlappingGuesses : List (Move LoginStep LoginMove) :=
  [.act 0 (.login wrongLogin), .act 1 (.login wrongLogin), .act 0 .next, .act 1 .next,
    .act 0 .next, .act 1 .next, .act 0 .next, .act 1 .next, .act 0 .next, .act 1 .next]

/-- Both were evaluated as unlocked, both updates ran, and the counter has grown by one. -/
theorem overlapping_guess_lost : ∃ c log,
    (guesses sampleCrypto).run (init guessedAccount [] 0, []) overlappingGuesses = some (c, log) ∧
    (∀ i ∈ overlappingGuesses, WrongPassword sampleCrypto guessedAccount i) ∧
    log.length = 2 ∧ (∀ guess ∈ log, ¬ Recording (c.locals guess.call)) ∧
    c.shared.account.failedLoginAttempts = guessedAccount.failedLoginAttempts + 1 := by
  have hrun : ((guesses sampleCrypto).run (init guessedAccount [] 0, []) overlappingGuesses).any
      (fun c => c.2.length = 2 ∧ (∀ guess ∈ c.2, ¬ Recording (c.1.locals guess.call)) ∧
        c.1.shared.account.failedLoginAttempts = guessedAccount.failedLoginAttempts + 1) =
      true := by
    decide
  obtain ⟨⟨c, log⟩, hc, hfacts⟩ := (Option.any_eq_true _ _).mp hrun
  have hwrong : ∀ i ∈ overlappingGuesses, WrongPassword sampleCrypto guessedAccount i := by
    simp [overlappingGuesses, WrongPassword, isValidPassword, sampleCrypto, guessedAccount,
      wrongLogin]
  exact ⟨c, log, hc, hwrong, of_decide_eq_true hfacts⟩

end LoginCalls
end OmniSupport.Auth
