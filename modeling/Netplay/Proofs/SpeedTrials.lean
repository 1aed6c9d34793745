/-
Module: Netplay.Proofs.SpeedTrials
Purpose: What the speed test of a session tells of the answers to it, however often it
  begins anew, and the login that ends it.
Main exports:
  intervals, SpeedTest.Follows, SpeedTest.Tells, SpeedTest.Follows.tells,
  Session.Entry.introduces, Session.Entry.measures, Session.trialStart,
  Session.trialAnswers, Session.follows_does, Performed.Prompts, Performed.Applies,
  Performed.Meets, Session.meets_acknowledge, Session.Entry.Timed, Session.timed_diary,
  Session.Aged, Relay.Onward, Relay.aged_play, Relay.speed_trials
-/
import Mathlib.Algebra.Order.BigOperators.Group.List
import Mathlib.Algebra.Order.Ring.Nat
import Mathlib.Data.List.Induction
import Netplay.Proofs.Lives
import Netplay.Proofs.Observers

namespace Netplay

/-! ## Intervals -/

/-- The times from one instant to the next. -/
def intervals : Nat → List Nat → List Nat
  | _, [] => []
  | start, now :: rest => (now - start) :: intervals now rest

variable {start now : Nat} {answers : List Nat}

theorem intervals_concat (start : Nat) (answers : List Nat) (now : Nat) :
    intervals start (answers ++ [now]) =
      intervals start answers ++ [now - answers.getLastD start] := by
  induction answers generalizing start with
  | nil => rfl
  | cons answer rest inductionHypothesis =>
      rw [List.getLastD_cons]
      exact congrArg ((answer - start) :: ·) (inductionHypothesis answer)

theorem length_intervals (start : Nat) (answers : List Nat) :
    (intervals start answers).length = answers.length := by
  induction answers generalizing start with
  | nil => rfl
  | cons answer rest inductionHypothesis => exact congrArg (· + 1) (inductionHypothesis answer)

/-- Where time never goes back, intervals add up. -/
theorem add_sum_intervals (forward : (start :: answers).Pairwise (· ≤ ·)) :
    start + (intervals start answers).sum = answers.getLastD start := by
  induction answers generalizing start with
  | nil => rfl
  | cons answer rest inductionHypothesis =>
      obtain ⟨first, later⟩ := List.pairwise_cons.mp forward
      have begun : start ≤ answer := first answer List.mem_cons_self
      rw [List.getLastD_cons, ← inductionHypothesis later, intervals, List.sum_cons]
      omega

/-- The least entry of a list that has become longer. -/
theorem min?_concat (list : List Nat) (last : Nat) :
    (list ++ [last]).min? = some ((list.min?.map (min · last)).getD last) := by
  cases list with
  | nil => rfl
  | cons first rest =>
      rw [List.cons_append, List.min?_cons', List.min?_cons', List.foldl_append]
      rfl

/-! ## Speed tests -/

namespace SpeedTest

variable {test : SpeedTest}

/-- What a speed test remembers of when it began and of when answers came. -/
structure Follows (test : SpeedTest) (start : Nat) (answers : List Nat) : Prop where
  started : test.started = start
  last : test.last = answers.getLastD start
  count : test.count = answers.length
  best : test.best = (intervals start answers).min?

/-- What a speed test tells of when it began and of when answers came. -/
structure Tells (test : SpeedTest) (start : Nat) (answers : List Nat) : Prop where
  count : test.count = answers.length
  started : test.started = start
  /-- The intervals between answers make up the time that has passed. -/
  elapsed : test.started + (intervals start answers).sum = test.last
  last : test.last = answers.getLastD start
  /-- The best interval is the shortest one. -/
  best : answers ≠ [] → (intervals start answers).min? = some test.bestMillis
  average : test.averageMicros = (intervals start answers).sum * 1000 / answers.length
  best_le_average : answers ≠ [] → test.bestMillis * 1000 ≤ test.averageMicros

namespace Follows

theorem begin (now : Nat) : (SpeedTest.start now).Follows now [] := ⟨rfl, rfl, rfl, rfl⟩

theorem measure (follows : test.Follows start answers) (now : Nat) :
    (test.measure now).Follows start (answers ++ [now]) where
  started := follows.started
  last := List.getLastD_concat.symm
  count := by
    rw [List.length_append, ← follows.count]
    rfl
  best := by
    rw [intervals_concat, min?_concat, ← follows.best, ← follows.last]
    rfl

theorem tells (follows : test.Follows start answers)
    (forward : (start :: answers).Pairwise (· ≤ ·)) : test.Tells start answers := by
  have elapsed : test.started + (intervals start answers).sum = test.last := by
    rw [follows.started, follows.last, add_sum_intervals forward]
  have average : test.averageMicros = (intervals start answers).sum * 1000 / answers.length := by
    rw [averageMicros, follows.count, ← elapsed, Nat.add_sub_cancel_left]
  have best (several : answers ≠ []) : (intervals start answers).min? = some test.bestMillis := by
    cases least : (intervals start answers).min? with
    | none =>
        have none := List.length_eq_zero_iff.mpr (List.min?_eq_none_iff.mp least)
        rw [length_intervals] at none
        exact absurd (List.length_eq_zero_iff.mp none) several
    | some interval => rw [bestMillis, follows.best, least, Option.getD_some]
  refine ⟨follows.count, follows.started, elapsed, follows.last, best, average, fun several => ?_⟩
  obtain ⟨-, least⟩ := List.min?_eq_some_iff.mp (best several)
  have bound := List.card_nsmul_le_sum _ _ least
  rw [length_intervals, nsmul_eq_mul, Nat.cast_id] at bound
  rw [average, Nat.le_div_iff_mul_le (List.length_pos_iff.mpr several)]
  calc test.bestMillis * 1000 * answers.length
      = answers.length * test.bestMillis * 1000 := by
        rw [Nat.mul_right_comm, Nat.mul_comm test.bestMillis]
    _ ≤ (intervals start answers).sum * 1000 := Nat.mul_le_mul_right 1000 bound

end Follows

end SpeedTest

/-! ## Diaries -/

namespace Session

variable {server : ServerSettings} {session : Session} {earlier : List Entry} {entry : Entry}
  {began : Nat}

/-- A login is taken down: its user is not logged in. -/
def Entry.introduces (entry : Entry) : Bool :=
  match entry.act with
  | .serve lobby _ (.login _ _ _) => !(lobby.people.person entry.before.user).loggedIn
  | _ => false

/-- An answer counts: its user is not logged in. -/
def Entry.measures (entry : Entry) : Bool :=
  match entry.act with
  | .serve lobby _ .acknowledge => !(lobby.people.person entry.before.user).loggedIn
  | _ => false

/-- When the speed test that goes on began: with the last login that was taken down, and
before any with the session. -/
def trialStart (began : Nat) (diary : List Entry) : Nat :=
  ((diary.filter (·.introduces)).getLast?.map (·.now)).getD began

/-- When answers have come since then, oldest first. -/
def trialAnswers (diary : List Entry) : List Nat :=
  ((diary.reverse.takeWhile (!·.introduces)).reverse.filter (·.measures)).map (·.now)

theorem trialStart_introduces (introduces : entry.introduces = true) :
    trialStart began (earlier ++ [entry]) = entry.now := by
  rw [trialStart, List.filter_append, List.filter_singleton, introduces, cond_true,
    List.getLast?_concat, Option.map_some, Option.getD_some]

theorem trialStart_other (other : entry.introduces = false) :
    trialStart began (earlier ++ [entry]) = trialStart began earlier := by
  rw [trialStart, List.filter_append, List.filter_singleton, other, cond_false, List.append_nil]
  rfl

theorem trialAnswers_introduces (introduces : entry.introduces = true) :
    trialAnswers (earlier ++ [entry]) = [] := by
  rw [trialAnswers, List.reverse_append, List.reverse_singleton, List.singleton_append,
    List.takeWhile_cons_of_neg (by rw [introduces]; decide)]
  rfl

theorem trialAnswers_other (other : entry.introduces = false) :
    trialAnswers (earlier ++ [entry]) =
      trialAnswers earlier ++ if entry.measures then [entry.now] else [] := by
  rw [trialAnswers, List.reverse_append, List.reverse_singleton, List.singleton_append,
    List.takeWhile_cons_of_pos (by rw [other]; rfl), List.reverse_cons, List.filter_append,
    List.map_append, List.filter_singleton]
  cases entry.measures with
  | true => rfl
  | false => rfl

/-- Instants of a speed test are instants of the diary. -/
theorem trial_sublist (began : Nat) (diary : List Entry) :
    (trialStart began diary :: trialAnswers diary).Sublist (began :: diary.map (·.now)) := by
  induction diary using List.reverseRecOn with
  | nil => exact .refl _
  | append_singleton earlier entry inductionHypothesis =>
      rw [List.map_append, List.map_singleton, ← List.cons_append]
      cases introduces : entry.introduces with
      | true =>
          rw [trialStart_introduces introduces, trialAnswers_introduces introduces]
          exact List.sublist_append_right _ _
      | false =>
          rw [trialStart_other introduces, trialAnswers_other introduces, ← List.cons_append]
          refine inductionHypothesis.append ?_
          split
          · exact .refl _
          · exact List.nil_sublist _

theorem times_diary (session : Session) (acts : List (Nat × Act)) :
    (session.diary server acts).map (·.now) = acts.map (·.1) := by
  induction acts generalizing session with
  | nil => rfl
  | cons act rest inductionHypothesis => exact congrArg (act.1 :: ·) (inductionHypothesis _)

/-! ## One act -/

theorem speed_tellingRefusal {α : Type} {step : Step Lobby α}
    {tell : Refusal → Performed → Performed}
    (keeps : ∀ refusal done, (tell refusal done).session.speed = done.session.speed) :
    (Performed.tellingRefusal session step tell).session.speed = session.speed :=
  Performed.tellingRefusal_induction (motive := fun done => done.session.speed = session.speed)
    rfl fun _ => keeps _ _

/-- Only a login that is taken down and an answer change the speed test. -/
theorem speed_perform (session : Session) (lobby : Lobby) (now ticket : Nat) {request : Request}
    (noLogin : ∀ name emulator connectionType, request ≠ .login name emulator connectionType)
    (noAnswer : request ≠ .acknowledge) :
    (session.perform lobby now ticket request).session.speed = session.speed := by
  cases request with
  | login name emulator connectionType => exact absurd rfl (noLogin name emulator connectionType)
  | acknowledge => exact absurd rfl noAnswer
  | gameChat message =>
      rw [perform]
      split
      · rfl
      · rfl
  | createGame | joinGame | startGame => exact speed_tellingRefusal fun _ _ => rfl
  | cachedInput slot =>
      rw [perform]
      split
      · rfl
      · rfl
  | _ => rfl

theorem speed_introduce (session : Session) (lobby : Lobby) (now : Nat) (name emulator : String)
    (connectionType : UInt8) :
    (session.introduce lobby now name emulator connectionType).session.speed =
      if (lobby.people.person session.user).loggedIn then session.speed else .start now := by
  unfold introduce
  split
  · rfl
  · rfl

theorem speed_finishLogin (session : Session) (lobby : Lobby) :
    (session.finishLogin lobby).session.speed = session.speed := by
  unfold finishLogin
  simp only
  split
  · rfl
  · rfl

theorem speed_acknowledge (session : Session) (lobby : Lobby) (now : Nat) :
    (session.acknowledge lobby now).session.speed =
      if (lobby.people.person session.user).loggedIn then session.speed
      else session.speed.measure now := by
  unfold acknowledge
  split
  · rfl
  · simp only
    split
    · rfl
    · exact speed_finishLogin _ lobby

theorem speed_hear (session : Session) (distance now : Nat) (source : Address)
    (datagram : Bytes) : (session.hear distance now source datagram).1.speed = session.speed := by
  unfold hear
  split
  · rw [(shows_resend _ distance now _).frame]
    rfl
  · rfl
  · rfl

/-- What an act makes of the speed test. -/
theorem speed_does (server : ServerSettings) (session : Session) (now : Nat) (act : Act) :
    (session.does server now act).1.speed =
      if (session.enter server now act).introduces then .start now
      else if (session.enter server now act).measures then session.speed.measure now
      else session.speed := by
  cases act with
  | hear source datagram => exact session.speed_hear _ now source datagram
  | render lobby event => rw [does, (session.shows_render _ now event).frame]; rfl
  | rest arrivals events phase stopped => rfl
  | serve lobby ticket request =>
      have told := Bool.eq_false_or_eq_true (lobby.people.person session.user).loggedIn
      cases request with
      | login name emulator connectionType =>
          refine (session.speed_introduce _ now name emulator connectionType).trans ?_
          rcases told with inside | out
          · have kept : (session.enter server now
                (.serve lobby ticket (.login name emulator connectionType))).introduces = false :=
              congrArg (!·) inside
            rw [kept]
            exact if_pos inside
          · have taken : (session.enter server now
                (.serve lobby ticket (.login name emulator connectionType))).introduces = true :=
              congrArg (!·) out
            rw [taken]
            exact if_neg (Bool.eq_false_iff.mp out)
      | acknowledge =>
          refine (session.speed_acknowledge _ now).trans ?_
          rcases told with inside | out
          · have ignored :
                (session.enter server now (.serve lobby ticket .acknowledge)).measures = false :=
              congrArg (!·) inside
            rw [ignored]
            exact if_pos inside
          · have counted :
                (session.enter server now (.serve lobby ticket .acknowledge)).measures = true :=
              congrArg (!·) out
            rw [counted]
            exact if_neg (Bool.eq_false_iff.mp out)
      | _ =>
          exact session.speed_perform { lobby with server := server } now ticket
            (fun _ _ _ same => by cases same) fun same => by cases same

/-- What the speed test remembers is true again after an act. -/
theorem follows_does (server : ServerSettings)
    (follows : session.speed.Follows (trialStart began earlier) (trialAnswers earlier))
    (now : Nat) (act : Act) :
    (session.does server now act).1.speed.Follows
      (trialStart began (earlier ++ [session.enter server now act]))
      (trialAnswers (earlier ++ [session.enter server now act])) := by
  rw [speed_does]
  cases introduces : (session.enter server now act).introduces with
  | true =>
      rw [trialStart_introduces introduces, trialAnswers_introduces introduces]
      exact .begin now
  | false =>
      rw [trialStart_other introduces, trialAnswers_other introduces]
      cases measures : (session.enter server now act).measures with
      | true => exact follows.measure now
      | false =>
          simp only [Bool.false_eq_true, if_false, List.append_nil]
          exact follows

/-- Whatever a session does, its speed test follows its diary. -/
theorem follows_diary (user : UserId) (port : Port) (host : String) (began : Nat)
    (acts : List (Nat × Act)) :
    ((begin user port host began).after server acts).speed.Follows
      (trialStart began ((begin user port host began).diary server acts))
      (trialAnswers ((begin user port host began).diary server acts)) := by
  induction acts using List.reverseRecOn with
  | nil => exact .begin began
  | append_singleton acts act inductionHypothesis =>
      rw [diary_append, after_append]
      exact follows_does server inductionHypothesis act.1 act.2

end Session

/-! ## Answers -/

/-- The login of a user with the ping that was measured. -/
def Lobby.loginWith (lobby : Lobby) (user : UserId) (ping : UInt32) : Step Lobby Unit :=
  Lobby.login
    { lobby with people := lobby.people.update user fun user => { user with ping := ping } } user

namespace Performed

variable {session : Session} {lobby : Lobby} {done : Performed} {ping : UInt32}

/-- The client is asked for one more answer, and nothing else happens. -/
structure Prompts (session : Session) (lobby : Lobby) (done : Performed) : Prop where
  state : done.lobby = lobby
  letters : done.letters = []
  outcome : done.outcome = .finished (.ok ())
  utters : session.Utters [(.serverAck, Body.serverAck)] (done.session, done.packets)

/-- A login with this ping is attempted.  If it is refused the client is told so, and that
is the last of its session. -/
structure Applies (session : Session) (lobby : Lobby) (ping : UInt32) (done : Performed) :
    Prop where
  state : done.lobby = (lobby.loginWith session.user ping).state
  letters : done.letters = (lobby.loginWith session.user ping).letters
  accepted : (lobby.loginWith session.user ping).result = .ok () →
    done.outcome = .finished (.ok ()) ∧ session.Utters [] (done.session, done.packets)
  refused : ∀ refusal, (lobby.loginWith session.user ping).result = .error refusal →
    done.outcome = .finished (.error (.loginRejected refusal)) ∧
      session.Utters [(.connectionRejected, Body.connectionRejected
        (done.lobby.people.person session.user).name session.user refusal.message)]
        (done.session, done.packets)

/-- How the last one of these answers since the speed test began is met. -/
structure Meets (session : Session) (lobby : Lobby) (start : Nat) (answers : List Nat)
    (done : Performed) : Prop where
  /-- The client is asked for one more answer after each of the first three. -/
  prompts : Prompts session lobby done ↔ answers.length < 4
  /-- A login is attempted by each later one. -/
  applies : (∃ ping, Applies session lobby ping done) ↔ 4 ≤ answers.length
  /-- The ping is the shortest interval, or the greatest one there can be. -/
  ping : ∀ best, 4 ≤ answers.length → (intervals start answers).min? = some best →
    Applies session lobby (UInt32.ofNat (min best 0xFFFFFFFF)) done

/-- Who is asked for one more answer has not tried to log in: a login that is not refused
is told to the user. -/
theorem Prompts.not_applies (prompts : Prompts session lobby done) :
    ¬ Applies session lobby ping done := by
  intro applies
  have letters := applies.letters
  rw [prompts.letters] at letters
  unfold Lobby.loginWith at letters
  rcases Lobby.login_cases { lobby with
      people := lobby.people.update session.user fun user => { user with ping := ping } }
      session.user with ⟨refusal, refused⟩ | ⟨user, -, -, -, accepted⟩
  · have result : (lobby.loginWith session.user ping).result = .error refusal := by
      rw [Lobby.loginWith, refused]
      rfl
    obtain ⟨outcome, -⟩ := applies.refused refusal result
    rw [prompts.outcome] at outcome
    cases outcome
  · rw [accepted] at letters
    exact absurd letters.symm (List.append_ne_nil_of_right_ne_nil _ (List.cons_ne_nil _ _))

end Performed

namespace Session

variable {server : ServerSettings} {session : Session} {lobby : Lobby} {earlier : List Entry}
  {entry : Entry} {began now : Nat}

theorem prompts_acknowledge (out : (lobby.people.person session.user).loggedIn = false)
    (few : (session.speed.measure now).count ≤ speedTestAnswers) :
    Performed.Prompts session lobby (session.acknowledge lobby now) := by
  unfold acknowledge
  rw [if_neg (Bool.eq_false_iff.mp out), if_pos few]
  exact ⟨rfl, rfl, rfl, .one rfl .serverAck Body.serverAck⟩

theorem applies_acknowledge (out : (lobby.people.person session.user).loggedIn = false)
    (enough : speedTestAnswers < (session.speed.measure now).count) :
    Performed.Applies session lobby
      (UInt32.ofNat (min (session.speed.measure now).bestMillis 0xFFFFFFFF))
      (session.acknowledge lobby now) := by
  unfold acknowledge
  rw [if_neg (Bool.eq_false_iff.mp out), if_neg (Nat.not_le_of_lt enough)]
  unfold finishLogin
  simp only
  split
  · rename_i accepted
    refine ⟨rfl, rfl, fun _ => ⟨?_, .nothing rfl⟩, fun refusal refused => ?_⟩
    · rw [Performed.ofStep, accepted]
    · rw [Lobby.loginWith, accepted] at refused
      cases refused
  · rename_i refusal refused
    refine ⟨rfl, rfl, fun accepted => ?_, fun other again => ?_⟩
    · rw [Lobby.loginWith, refused] at accepted
      cases accepted
    · rw [Lobby.loginWith, refused] at again
      cases again
      exact ⟨rfl, .one rfl _ _⟩

theorem meets_acknowledge {start : Nat} {answers : List Nat}
    (out : (lobby.people.person session.user).loggedIn = false)
    (counts : (session.speed.measure now).Follows start answers) :
    Performed.Meets session lobby start answers (session.acknowledge lobby now) := by
  have prompts (few : answers.length < 4) :
      Performed.Prompts session lobby (session.acknowledge lobby now) := by
    rw [← counts.count] at few
    exact prompts_acknowledge out (Nat.le_of_lt_succ few)
  have applies (enough : 4 ≤ answers.length) :
      Performed.Applies session lobby
        (UInt32.ofNat (min (session.speed.measure now).bestMillis 0xFFFFFFFF))
        (session.acknowledge lobby now) := by
    rw [← counts.count] at enough
    exact applies_acknowledge out enough
  refine ⟨⟨fun prompted => ?_, prompts⟩, ⟨?_, fun enough => ⟨_, applies enough⟩⟩, ?_⟩
  · by_contra enough
    exact prompted.not_applies (applies (Nat.le_of_not_lt enough))
  · rintro ⟨ping, applied⟩
    by_contra few
    exact (prompts (Nat.lt_of_not_le few)).not_applies applied
  · intro best enough least
    have shortest : (session.speed.measure now).bestMillis = best := by
      rw [SpeedTest.bestMillis, counts.best, least, Option.getD_some]
    exact shortest ▸ applies enough

/-- What comes of an answer at an entry. -/
def Entry.reaction (server : ServerSettings) (entry : Entry) (lobby : Lobby) (ticket : Nat) :
    Performed :=
  entry.before.perform { lobby with server := server } entry.now ticket .acknowledge

/-- What the speed test is after an entry that follows earlier ones, and what comes of the
entry if it is an answer that counts. -/
structure Entry.Timed (server : ServerSettings) (began : Nat) (earlier : List Entry)
    (entry : Entry) : Prop where
  tells : entry.after.speed.Tells (trialStart began (earlier ++ [entry]))
    (trialAnswers (earlier ++ [entry]))
  reacts : ∀ lobby ticket, entry.act = .serve lobby ticket .acknowledge →
    entry.after = (entry.reaction server lobby ticket).session ∧
      entry.packets = (entry.reaction server lobby ticket).packets
  meets : ∀ lobby ticket, entry.act = .serve lobby ticket .acknowledge → entry.measures = true →
    Performed.Meets entry.before { lobby with server := server }
      (trialStart began (earlier ++ [entry])) (trialAnswers (earlier ++ [entry]))
      (entry.reaction server lobby ticket)

/-- An answer that counts goes on with the speed test. -/
theorem follows_answer {ticket : Nat}
    (follows : session.speed.Follows (trialStart began earlier) (trialAnswers earlier))
    (measures :
      (session.enter server now (.serve lobby ticket .acknowledge)).measures = true) :
    (lobby.people.person session.user).loggedIn = false ∧
      (session.speed.measure now).Follows
        (trialStart began
          (earlier ++ [session.enter server now (.serve lobby ticket .acknowledge)]))
        (trialAnswers
          (earlier ++ [session.enter server now (.serve lobby ticket .acknowledge)])) := by
  have out : (lobby.people.person session.user).loggedIn = false := by
    rw [← Bool.not_eq_true']
    exact measures
  have after := follows_does server follows now (.serve lobby ticket .acknowledge)
  rw [speed_does, measures] at after
  exact ⟨out, after⟩

/-- Whatever a session does, its speed test tells what it should, and answers are met as
they should be. -/
theorem timed_enter (server : ServerSettings)
    (follows : session.speed.Follows (trialStart began earlier) (trialAnswers earlier))
    (now : Nat) (act : Act)
    (forward : (trialStart began (earlier ++ [session.enter server now act]) ::
      trialAnswers (earlier ++ [session.enter server now act])).Pairwise (· ≤ ·)) :
    (session.enter server now act).Timed server began earlier := by
  refine ⟨(follows_does server follows now act).tells forward, ?_, ?_⟩
  · rintro lobby ticket rfl
    exact ⟨rfl, rfl⟩
  · rintro lobby ticket rfl measures
    obtain ⟨out, counts⟩ := follows_answer follows measures
    have met : Performed.Meets session { lobby with server := server } _ _
        (session.acknowledge { lobby with server := server } now) := meets_acknowledge out counts
    exact met

/-- Whatever a session does while time goes on, each of its entries is as it should be. -/
theorem timed_diary {user : UserId} {port : Port} {host : String} {acts : List (Nat × Act)}
    (forward : (began :: acts.map (·.1)).Pairwise (· ≤ ·))
    (first : earlier ++ [entry] <+: (begin user port host began).diary server acts) :
    entry.Timed server began earlier := by
  induction acts using List.reverseRecOn with
  | nil =>
      exact absurd (List.prefix_nil.mp first)
        (List.append_ne_nil_of_right_ne_nil earlier (List.cons_ne_nil entry []))
  | append_singleton acts act inductionHypothesis =>
      -- Only for the last entry does it matter that the instants of its trial are in order,
      -- and they are among all instants.
      have trial := trial_sublist began ((begin user port host began).diary server (acts ++ [act]))
      rw [times_diary] at trial
      have sorted := forward.sublist trial
      rw [diary_append] at first sorted
      rcases List.prefix_concat_iff.mp first with last | old
      · obtain ⟨rfl, same⟩ := List.append_inj' last rfl
        rw [List.singleton_inj.mp same]
        exact timed_enter server (follows_diary user port host began acts) act.1 act.2 sorted
      · refine inductionHypothesis ?_ old
        rw [List.map_append, ← List.cons_append] at forward
        exact (List.pairwise_append.mp forward).1

/-! ## Sessions of a relay -/

/-- A session has come about act by act since it began, and time did not go back
meanwhile. -/
def Aged (server : ServerSettings) (port : Port) (session : Session) (now : Nat) : Prop :=
  ∃ user host began acts, (began :: acts.map (·.1) ++ [now]).Pairwise (· ≤ ·) ∧
    (begin user port host began).after server acts = session

namespace Aged

variable {port : Port} {later : Session} {packets : List Packet}

theorem begin (server : ServerSettings) (port : Port) (user : UserId) (host : String)
    (now : Nat) : Aged server port (.begin user port host now) now :=
  ⟨user, host, now, [], List.pairwise_pair.mpr (Nat.le_refl now), rfl⟩

theorem leads (aged : session.Aged server port now)
    (leads : Leads server now session later packets) : later.Aged server port now := by
  obtain ⟨user, host, began, acts, forward, rfl⟩ := aged
  obtain ⟨more, rfl, -⟩ := leads
  refine ⟨user, host, began, acts ++ more.map (now, ·), ?_, after_append ..⟩
  -- The new acts come all at one instant, which none of the old ones is after.
  have instant : (more.map (now, ·)).map (·.1) = List.replicate more.length now := by
    rw [List.map_map, List.eq_replicate_iff, List.length_map]
    exact ⟨rfl, fun time member => by obtain ⟨act, -, rfl⟩ := List.mem_map.mp member; rfl⟩
  obtain ⟨before, -, bound⟩ := List.pairwise_append.mp forward
  rw [List.map_append, instant, ← List.cons_append, List.append_assoc, List.pairwise_append,
    ← List.replicate_succ']
  refine ⟨before, List.pairwise_replicate.mpr (.inr (Nat.le_refl now)),
    fun one member two last => ?_⟩
  rw [(List.mem_replicate.mp last).2]
  exact bound one member now (List.mem_singleton_self now)

/-- Time goes on. -/
theorem wait {afterwards : Nat} (aged : session.Aged server port now)
    (onward : now ≤ afterwards) : session.Aged server port afterwards := by
  obtain ⟨user, host, began, acts, forward, rfl⟩ := aged
  obtain ⟨before, -, bound⟩ := List.pairwise_append.mp forward
  refine ⟨user, host, began, acts, List.pairwise_append.mpr
    ⟨before, List.pairwise_singleton .., fun one member two last => ?_⟩, rfl⟩
  rw [List.mem_singleton.mp last]
  exact Nat.le_trans (bound one member now (List.mem_singleton_self now)) onward

end Aged

end Session

namespace Relay

variable {relay : Relay} {port : Port} {session : Session}

/-- Time does not go back through a row of beats. -/
def Onward : Relay → List Beat → Prop
  | _, [] => True
  | relay, beat :: rest => relay.now ≤ (relay.beat beat).now ∧ Onward (relay.beat beat) rest

instance decidableOnward : (relay : Relay) → (beats : List Beat) → Decidable (relay.Onward beats)
  | _, [] => inferInstanceAs (Decidable True)
  | relay, beat :: rest =>
      have := decidableOnward (relay.beat beat) rest
      inferInstanceAs (Decidable (_ ∧ _))

/-- So sessions come about as time goes on. -/
theorem aged_play {settings : Settings} (housed : relay.Housed settings)
    (aged : ∀ session, relay.sessionOn? port = some session →
      session.Aged settings.server port relay.now) {beats : List Beat}
    (onward : relay.Onward beats)
    (there : (relay.play beats).sessionOn? port = some session) :
    session.Aged settings.server port (relay.play beats).now := by
  induction beats generalizing relay with
  | nil => exact aged session there
  | cons beat rest inductionHypothesis =>
      refine inductionHypothesis (housed.goes (relay.goes_beat beat)) (fun later here => ?_)
        onward.2 there
      refine Session.Aged.wait ?_ onward.1
      cases before : relay.sessionOn? port with
      | none => exact .leads (.begin _ _ _ _ _) (begins_beat housed before here)
      | some session => exact (aged session before).leads (leads_beat housed before here)

/-- The speed test of a session.  Whatever a session does while time goes on, the test
tells of all answers since it last began anew; each of the first three answers is met with
one more question, and each later one is an attempt to log in with the shortest interval
as the ping, or with the greatest ping there is if that is shorter.  And whatever happens
at a relay while time goes on, its sessions come about in this way. -/
theorem speed_trials (settings : Settings) :
    (∀ user port host began acts, (began :: acts.map (·.1)).Pairwise (· ≤ ·) →
      ∀ earlier entry,
        earlier ++ [entry] <+:
            (Session.begin user port host began).diary settings.server acts →
          entry.Timed settings.server began earlier) ∧
      ∀ beats, (opened settings).Onward beats → ∀ port session,
        ((opened settings).play beats).sessionOn? port = some session →
          session.Aged settings.server port ((opened settings).play beats).now := by
  refine ⟨fun user port host began acts forward earlier entry first => ?_,
    fun beats onward port session there => ?_⟩
  · exact Session.timed_diary forward first
  · exact aged_play (.opened settings) (fun _ there => by cases there) onward there

/-- A client has come to the relay and has told who it is. -/
def doorway : Lobby :=
  let lobby := ((Lobby.empty {}).connect home "0.83").state
  { lobby with people := lobby.people.update 1 (·.introduce "Ada" "MAME" 1) }

/-- It answers before it logs in, and four times after. -/
def restarted : List (Nat × Session.Act) :=
  [(5, .serve doorway 0 .acknowledge), (10, .serve doorway 1 (.login "Ada" "MAME" 1)),
    (30, .serve doorway 2 .acknowledge), (35, .serve doorway 3 .acknowledge),
    (60, .serve doorway 4 .acknowledge), (100, .serve doorway 5 .acknowledge)]

/-- Each answer comes seven weeks after the one before. -/
def slowly : List Beat :=
  .greet home knock :: writes home 27889 0 [(.userLogin, [0x41, 0, 0x45, 0, 1])] ++
    (List.range 4).flatMap fun answer =>
      .clock ((answer + 1) * 4294967296) :: writes home 27889 (answer + 1) [(.clientAck, [])]

/-- Settings with which such a client can log in. -/
def patient : Settings := { server := { maxPing := 0, keepaliveSeconds := 10000000 } }

/-- The first answer does not count any more, and the login is attempted with the interval
of five milliseconds between the next two. -/
theorem speed_trials_restarted :
    (0 :: restarted.map (·.1)).Pairwise (· ≤ ·) ∧
      (∃ entry ∈ (Session.begin 1 27889 home.host 0).diary {} restarted, entry.now = 100 ∧
        entry.after.speed.Tells 10 [30, 35, 60, 100] ∧
        Performed.Applies entry.before { doorway with server := {} } 5
          (entry.reaction {} doorway 5)) ∧
      (opened {}).Onward (enters home 27889 0x41) ∧
      ∃ session, ((opened {}).play (enters home 27889 0x41)).sessionOn? 27889 = some session ∧
        session.Aged {} 27889 0 := by
  obtain ⟨sessions, relays⟩ := speed_trials {}
  have forward : (0 :: restarted.map (·.1)).Pairwise (· ≤ ·) := by decide
  let before := (Session.begin 1 27889 home.host 0).diary {} (restarted.take 5)
  let entry := ((Session.begin 1 27889 home.host 0).after {} (restarted.take 5)).enter {} 100
    (.serve doorway 5 .acknowledge)
  have whole : (Session.begin 1 27889 home.host 0).diary {} restarted = before ++ [entry] := rfl
  have timed : entry.Timed {} 0 before :=
    sessions 1 27889 home.host 0 restarted forward before entry (whole ▸ List.prefix_refl _)
  have start : Session.trialStart 0 (before ++ [entry]) = 10 := by decide +kernel
  have answers : Session.trialAnswers (before ++ [entry]) = [30, 35, 60, 100] := by
    decide +kernel
  have onward : (opened {}).Onward (enters home 27889 0x41) := by decide +kernel
  obtain ⟨session, there⟩ : ∃ session,
      ((opened {}).play (enters home 27889 0x41)).sessionOn? 27889 = some session :=
    Option.isSome_iff_exists.mp (by decide +kernel)
  refine ⟨forward, ⟨entry, ?_, rfl, ?_, ?_⟩, onward, session, there, ?_⟩
  · rw [whole]
    exact List.mem_append_right _ (List.mem_singleton_self entry)
  · have tells := timed.tells
    rw [start, answers] at tells
    exact tells
  · exact (timed.meets doorway 5 rfl (by decide +kernel)).ping 5 (by rw [answers]; decide)
      (by rw [start, answers]; decide)
  · have aged := relays (enters home 27889 0x41) onward 27889 session there
    have instant : ((opened {}).play (enters home 27889 0x41)).now = 0 := by decide +kernel
    rw [instant] at aged
    exact aged

/-- The ping of such a client is the greatest one there is, and its shortest interval is
longer. -/
theorem ping_saturates :
    (opened patient).Onward slowly ∧
      (((opened patient).play slowly).sessionOn? 27889).map
          (fun session => (session.speed.count, session.speed.bestMillis)) =
        some (4, 4294967296) ∧
      (((opened patient).play slowly).lobby.people.person 1).loggedIn = true ∧
      (((opened patient).play slowly).lobby.people.person 1).ping = 4294967295 := by
  decide +kernel

end Relay

end Netplay
