/-
Module: Netplay.Proofs.Isolation
Purpose: Games keep to themselves: what is done in one leaves every other game and all who
  are not in it alone, so that affairs of two games can be attended to in either order.
Main exports:
  Lobby.Beside, Lobby.beside_graft, Affair.At.members_apart, Affair.At.parties_apart,
  Lobby.Makes, Lobby.makes_attend, Lobby.Makes.beside, Lobby.attend_comm,
  Lobby.at_of_member, Venue.isolation
-/
import Netplay.Proofs.Affairs

namespace Netplay

/-! ## Beside a game -/

namespace Lobby

variable {lobby after : Lobby} {game other : Game} {settings : Settings} {created : Nat}

/-- Nothing has changed but one game and the entries of its members. -/
structure Beside (lobby : Lobby) (game : Game) (after : Lobby) : Prop where
  server : after.server = lobby.server
  rules : after.gameRules = lobby.gameRules
  /-- Those that are not in the game have their entries, and in the same order. -/
  present : after.people.present.filter (·.id ∉ game.members) =
    lobby.people.present.filter (·.id ∉ game.members)
  departed : after.people.departed = lobby.people.departed
  /-- The other live games are what they were, and in the same order. -/
  games : after.games.filter (·.id ≠ game.id) = lobby.games.filter (·.id ≠ game.id)
  closed : after.closed.filter (·.id ≠ game.id) = lobby.closed.filter (·.id ≠ game.id)
  nextUser : after.nextUser = lobby.nextUser
  nextGame : after.nextGame = lobby.nextGame

/-- Members of games are registered; closed games have none. -/
theorem Kept.present {member : UserId} (kept : lobby.Kept settings created)
    (shuttered : lobby.Shuttered) (known : game ∈ lobby.allGames) (here : member ∈ game.members) :
    game ∈ lobby.games ∧ lobby.people.present.any (·.id = member) = true := by
  rcases List.mem_append.mp known with live | closed
  · obtain ⟨user, registered, number, -⟩ := kept.registered live here
    exact ⟨live, List.any_eq_true.mpr ⟨user, registered, decide_eq_true number⟩⟩
  · rw [(shuttered game closed).nobody] at here
    cases here

/-- What becomes of a game and its members leaves all else alone. -/
theorem beside_graft {changes : List Roster.Change} {last : Game} (closes : Bool)
    (kept : lobby.Kept settings created) (shuttered : lobby.Shuttered)
    (known : game ∈ lobby.allGames) (number : last.id = game.id)
    (among : ∀ change ∈ changes, change.user ∈ game.members) :
    lobby.Beside game (lobby.graft last closes (lobby.people.amend changes)) := by
  obtain ⟨departed, present⟩ := Roster.amend_frame
    (fun change isOne => (kept.present shuttered known (among change isOne)).2) among
  refine ⟨by simp, by simp, ?_, ?_, ?_, ?_, by simp, by simp⟩
  · rw [people_graft]
    exact present
  · rw [people_graft]
    exact departed
  · rw [games_graft, ← number]
    split
    · rw [List.filter_filter]
      simp only [Bool.and_self]
    · exact Game.filter_among _
  · rw [closed_graft, ← number]
    split
    · rw [List.filter_append, List.filter_filter]
      simp
    · exact Game.filter_amongBusy shuttered.busy

/-- Whoever is looked for is found among those that pass a test which it passes. -/
theorem find?_among {α : Type} {test search : α → Bool}
    (passes : ∀ entry, search entry = true → test entry = true) (list : List α) :
    (list.filter test).find? search = list.find? search := by
  rw [List.find?_filter]
  refine congrArg (list.find? ·) (funext fun entry => ?_)
  cases wanted : search entry with
  | true => simp [passes entry wanted]
  | false => simp

namespace Beside

variable (beside : lobby.Beside game after)
include beside

/-- Users that are not in the game are registered as before. -/
theorem registered? {id : UserId} (stranger : id ∉ game.members) :
    after.people.registered? id = lobby.people.registered? id := by
  have passes : ∀ user : User, decide (user.id = id) = true →
      decide (user.id ∉ game.members) = true := by
    intro user number
    exact decide_eq_true (of_decide_eq_true number ▸ stranger)
  rw [Roster.registered?, Roster.registered?, ← find?_among passes after.people.present,
    beside.present, find?_among passes]

/-- Other games are found as before. -/
theorem game? {number : GameId} (differs : number ≠ game.id) :
    after.game? number = lobby.game? number := by
  have passes : ∀ other : Game, decide (other.id = number) = true →
      decide (other.id ≠ game.id) = true := by
    intro other same
    exact decide_eq_true (of_decide_eq_true same ▸ differs)
  rw [Lobby.game?, Lobby.game?, ← find?_among passes after.games, beside.games,
    find?_among passes]

/-- They are live or closed as before. -/
theorem known (differs : other.id ≠ game.id) (known : other ∈ lobby.allGames) :
    other ∈ after.allGames := by
  have stays {games later : List Game}
      (same : later.filter (·.id ≠ game.id) = games.filter (·.id ≠ game.id))
      (here : other ∈ games) : other ∈ later := by
    have member : other ∈ games.filter (·.id ≠ game.id) :=
      List.mem_filter.mpr ⟨here, decide_eq_true differs⟩
    exact (List.mem_filter.mp (same ▸ member)).1
  exact List.mem_append.mpr ((List.mem_append.mp known).imp (stays beside.games)
    (stays beside.closed))

/-- A user of another game is found with it as before. -/
theorem player? {id : UserId} {person : User} (stranger : id ∉ game.members)
    (differs : other.id ≠ game.id) (found : lobby.player? id = .ok (person, other)) :
    after.player? id = .ok (person, other) := by
  obtain ⟨known, loggedIn, place⟩ := parts_of_player? found
  obtain ⟨named, -⟩ := gameOf?_eq_ok place
  have same : after.loggedIn? id = lobby.loggedIn? id := by
    rw [Lobby.loggedIn?, Lobby.loggedIn?, beside.registered? stranger]
  have there : after.gameOf? person = lobby.gameOf? person := by
    rw [gameOf?, gameOf?, named]
    simp only [beside.game? differs]
  rw [Lobby.player?, same, loggedIn]
  simp only [there, place]

end Beside

end Lobby

/-! ## Who takes part -/

namespace Affair.At

variable {lobby after : Lobby} {game other : Game} {affair one two : Affair} {user : UserId}
  {settings : Settings} {created : Nat}

/-- The game of an affair is there. -/
theorem known (place : affair.At lobby game) : game ∈ lobby.allGames := by
  have issued (asked : ∃ user ∈ affair.asker?, ∃ person, lobby.player? user = .ok (person, game)) :
      game ∈ lobby.allGames := by
    obtain ⟨_, _, person, found⟩ := asked
    exact List.mem_append_left _ (Lobby.player?_eq_ok found)
  cases affair with
  | retry now number ticket => exact place.1
  | _ => exact issued place

/-- Whoever asks is found with the game. -/
theorem asks (place : affair.At lobby game) (asks : user ∈ affair.asker?) :
    ∃ person, lobby.player? user = .ok (person, game) := by
  have issued (asked : ∃ user ∈ affair.asker?, ∃ person, lobby.player? user = .ok (person, game)) :
      ∃ person, lobby.player? user = .ok (person, game) := by
    obtain ⟨_, itself, person, found⟩ := asked
    obtain rfl := Option.some.inj (itself.symm.trans asks)
    exact ⟨person, found⟩
  cases affair with
  | retry now number ticket => cases asks
  | _ => exact issued place

/-- Its entry names the game. -/
theorem entry (place : affair.At lobby game) (asks : user ∈ affair.asker?) :
    ∃ person ∈ lobby.people.present, person.id = user ∧ person.game = some game.id := by
  obtain ⟨person, found⟩ := place.asks asks
  obtain ⟨registered, number⟩ := Lobby.registered_of_player? found
  obtain ⟨-, -, here⟩ := Lobby.parts_of_player? found
  exact ⟨person, registered, number, (Lobby.gameOf?_eq_ok here).1⟩

/-- Affairs of another game stay affairs of it. -/
theorem beside (place : affair.At lobby other) (beside : lobby.Beside game after)
    (differs : other.id ≠ game.id) (strangers : ∀ user ∈ affair.asker?, user ∉ game.members) :
    affair.At after other := by
  have issued (asked : ∃ user ∈ affair.asker?, ∃ person, lobby.player? user = .ok (person, other)) :
      ∃ user ∈ affair.asker?, ∃ person, after.player? user = .ok (person, other) := by
    obtain ⟨user, asks, person, found⟩ := asked
    exact ⟨user, asks, person, beside.player? (strangers user asks) differs found⟩
  cases affair with
  | retry now number ticket => exact ⟨beside.known differs place.1, place.2⟩
  | _ => exact issued place

variable (kept : lobby.Kept settings created) (shuttered : lobby.Shuttered)
include kept shuttered

/-- No member of a game asks for anything in another one. -/
theorem strangers (place : affair.At lobby other) (known : game ∈ lobby.allGames)
    (differs : other.id ≠ game.id) : ∀ user ∈ affair.asker?, user ∉ game.members := by
  intro user asks here
  obtain ⟨person, registered, rfl, named⟩ := place.entry asks
  have live := (kept.present shuttered known here).1
  have home : person.game = some game.id :=
    kept.coherent.place (Lobby.mem_guests registered) (Lobby.mem_parties live) here
  exact differs (Option.some.inj (named.symm.trans home))

/-- No member of a game takes part in an affair of another one. -/
theorem members_apart (place : affair.At lobby other) (known : game ∈ lobby.allGames)
    (differs : other.id ≠ game.id) : ∀ user ∈ game.members, user ∉ affair.parties other := by
  intro user here there
  rcases List.mem_append.mp there with asks | member
  · exact place.strangers kept shuttered known differs user (Option.mem_toList.mp asks) here
  · have live := (kept.present shuttered known here).1
    have liveOther := (kept.present shuttered place.known member).1
    have same := kept.coherent.lone (Lobby.mem_parties liveOther) (Lobby.mem_parties live) member
      here
    exact differs (congrArg Party.id same)

/-- Nobody takes part in affairs of two games. -/
theorem parties_apart (first : one.At lobby game) (second : two.At lobby other)
    (differs : other.id ≠ game.id) : ∀ user ∈ one.parties game, user ∉ two.parties other := by
  intro user here there
  rcases List.mem_append.mp here with asks | member
  · rcases List.mem_append.mp there with asksToo | memberToo
    · obtain ⟨person, found⟩ := first.asks (Option.mem_toList.mp asks)
      obtain ⟨_, foundToo⟩ := second.asks (Option.mem_toList.mp asksToo)
      rw [found] at foundToo
      cases foundToo
      exact differs rfl
    · exact first.members_apart kept shuttered second.known differs.symm user memberToo here
  · exact second.members_apart kept shuttered first.known differs user member there

end Affair.At

/-! ## What comes of affairs of two games -/

namespace Lobby

variable {lobby : Lobby} {game other : Game} {affair one two : Affair} {user : UserId}
  {settings : Settings} {created : Nat} {reply : Room.Reply} {changes : List Roster.Change}

/-- An affair leaves its game as the room does, changes entries, and comes to the same. -/
structure Ends (lobby : Lobby) (affair : Affair) (reply : Room.Reply)
    (changes : List Roster.Change) : Prop where
  state : (lobby.attend affair).state =
    lobby.graft reply.room.game reply.closes (lobby.people.amend changes)
  result : (lobby.attend affair).result = reply.result

/-- It changes entries in no other way. -/
theorem Ends.people (ends : lobby.Ends affair reply changes) :
    (lobby.attend affair).state.people = lobby.people.amend changes := by
  rw [ends.state, people_graft]

/-- Some changes to the entries of members are those that an affair of the game makes,
wherever those that take part in it have the same entries.  It is told in the same way if those
that are named have, too. -/
structure Makes (lobby : Lobby) (game : Game) (affair : Affair)
    (changes : List Roster.Change) : Prop where
  among : ∀ change ∈ changes, change.user ∈ game.members
  ends : ∀ {settings : Settings} {created : Nat} {after : Lobby},
    after.Kept settings created → after.Shuttered → affair.At after game →
    lobby.people.Alike after.people (affair.parties game) →
    after.Ends affair ((lobby.room game).attend affair) changes ∧
      (lobby.people.Alike after.people (affair.named game) →
        ∀ user, gameNews user (after.attend affair).letters =
          gameNews user ((lobby.room game).attend affair).letters)

/-- Every affair of a game makes such changes. -/
theorem makes_attend (users : game.queueUsers = game.queues.map (·.user)) (lobby : Lobby)
    (affair : Affair) : ∃ changes, lobby.Makes game affair changes := by
  obtain ⟨changes, among, same⟩ := (lobby.room game).local_attend users affair
  refine ⟨changes, among, fun {_ _ after} kept shuttered place alike => ?_⟩
  obtain ⟨becomes, result, closes, letters⟩ := same after.people alike
  have made := attend_eq kept.nodup shuttered kept.placed place
  have room : ((after.room game).attend affair).room =
      ⟨((lobby.room game).attend affair).room.game, after.people.amend changes⟩ := becomes
  refine ⟨⟨?_, made.result.trans result⟩, fun named user => ?_⟩
  · rw [made.state, room]
    exact congrArg (after.graft _ · _) closes
  · exact (made.news user).trans (congrArg (gameNews user) (letters named))

section Kept

variable (kept : lobby.Kept settings created)
include kept

/-- Nobody hears of a loyal affair but those that take part in it. -/
theorem unheard_attend (place : affair.At lobby game) (loyal : affair.Loyal game)
    (stranger : user ∉ affair.parties game) :
    gameNews user ((lobby.room game).attend affair).letters = [] := by
  have asks : ∀ user ∈ affair.asker?, (lobby.people.person user).game = some game.id := by
    intro user asks
    obtain ⟨person, registered, rfl, named⟩ := place.entry asks
    rw [lobby.people.person_of_mem kept.users_nodup registered]
    exact named
  exact gameNews_unheard ((lobby.room game).reach_attend asks loyal) stranger

variable (shuttered : lobby.Shuttered)
include shuttered

/-- The affair ends in that way where the changes were found. -/
theorem Makes.here (makes : lobby.Makes game affair changes) (place : affair.At lobby game) :
    lobby.Ends affair ((lobby.room game).attend affair) changes ∧
      ∀ user, gameNews user (lobby.attend affair).letters =
        gameNews user ((lobby.room game).attend affair).letters := by
  obtain ⟨ends, news⟩ := makes.ends kept shuttered place (.refl _ _)
  exact ⟨ends, news (.refl _ _)⟩

/-- It leaves all else alone. -/
theorem Makes.beside (makes : lobby.Makes game affair changes) (place : affair.At lobby game) :
    lobby.Beside game (lobby.attend affair).state := by
  rw [(makes.here kept shuttered place).1.state]
  exact beside_graft _ kept shuttered place.known ((lobby.room game).number_attend affair)
    makes.among

/-- So an affair of another game ends in the same way afterwards, and is told in the same way
if it is loyal. -/
theorem Makes.afterwards (first : lobby.Makes game one changes) (place : one.At lobby game)
    {later : List Roster.Change} (second : lobby.Makes other two later)
    (placeOther : two.At lobby other) (differs : other.id ≠ game.id) :
    (lobby.attend one).state.Ends two ((lobby.room other).attend two) later ∧
      (two.Loyal other → ∀ user, gameNews user ((lobby.attend one).state.attend two).letters =
        gameNews user ((lobby.room other).attend two).letters) := by
  have strangers := placeOther.strangers kept shuttered place.known differs
  have still := placeOther.beside (first.beside kept shuttered place) differs strangers
  have alike : lobby.people.Alike (lobby.attend one).state.people (two.parties other) := by
    rw [(first.here kept shuttered place).1.people]
    exact .of_amend (fun change isOne => placeOther.members_apart kept shuttered place.known
      differs change.user (first.among change isOne)) lobby.people
  obtain ⟨ends, news⟩ := second.ends (lobby.kept_attend kept one)
    (lobby.shuttered_attend kept.nodup shuttered one) still alike
  refine ⟨ends, fun loyal => news (alike.mono fun user named => ?_)⟩
  exact List.mem_append_right _ (loyal.named user named)

/-- Affairs of two games can be attended to in either order. -/
theorem attend_comm (users : ∀ game ∈ lobby.allGames, game.queueUsers = game.queues.map (·.user))
    (placeOne : one.At lobby game) (placeTwo : two.At lobby other) (differs : game.id ≠ other.id) :
    let first := lobby.attend one
    let second := first.state.attend two
    let sooner := lobby.attend two
    let later := sooner.state.attend one
    first.result = later.result ∧ second.result = sooner.result ∧
      second.state.Same later.state ∧
      (one.Loyal game → two.Loyal other → ∀ user,
        gameNews user (first.letters ++ second.letters) =
          gameNews user (sooner.letters ++ later.letters)) := by
  obtain ⟨changes, makesOne⟩ := makes_attend (users game placeOne.known) lobby one
  obtain ⟨others, makesTwo⟩ := makes_attend (users other placeTwo.known) lobby two
  obtain ⟨first, firstNews⟩ := makesOne.here kept shuttered placeOne
  obtain ⟨sooner, soonerNews⟩ := makesTwo.here kept shuttered placeTwo
  obtain ⟨second, secondNews⟩ :=
    makesOne.afterwards kept shuttered placeOne makesTwo placeTwo differs.symm
  obtain ⟨later, laterNews⟩ :=
    makesTwo.afterwards kept shuttered placeTwo makesOne placeOne differs
  refine ⟨first.result.trans later.result.symm, second.result.trans sooner.result.symm, ?_,
    fun loyalOne loyalTwo user => ?_⟩
  · have numberOne := (lobby.room game).number_attend one
    have numberTwo := (lobby.room other).number_attend two
    -- The two have no member in common.
    have apart : ∀ change ∈ changes, ∀ another ∈ others, change.user ≠ another.user :=
      fun change isOne another isTwo same =>
        placeTwo.members_apart kept shuttered placeOne.known differs.symm change.user
          (makesOne.among change isOne)
          (List.mem_append_right _ (same ▸ makesTwo.among another isTwo))
    rw [second.state, later.state, first.people, sooner.people, first.state, sooner.state,
      Roster.amend_comm apart]
    refine graft_comm shuttered (fun same => differs ?_) _ _ _ _ _
    exact numberOne.symm.trans (same.trans numberTwo)
  · rw [gameNews_append, gameNews_append, firstNews, secondNews loyalTwo, soonerNews,
      laterNews loyalOne]
    by_cases takesPart : user ∈ one.parties game
    · rw [unheard_attend kept placeTwo loyalTwo (placeOne.parties_apart kept shuttered placeTwo
        differs.symm user takesPart), List.append_nil, List.nil_append]
    · rw [unheard_attend kept placeOne loyalOne takesPart, List.append_nil, List.nil_append]

end Kept

/-- Whatever a member asks for is an affair of its game. -/
theorem at_of_member (kept : lobby.Kept settings created) (live : game ∈ lobby.games)
    (member : user ∈ game.members) (asks : affair.asker? = some user) :
    affair.At lobby game := by
  have found : ∃ person, lobby.player? user = .ok (person, game) := by
    obtain ⟨person, registered, rfl, loggedIn⟩ := kept.registered live member
    refine ⟨person, ?_⟩
    have known : lobby.people.registered? person.id = some person :=
      find?_key kept.users_nodup registered
    rw [player?, loggedIn?, known]
    simp only [loggedIn, if_true, kept.placed.here person registered game live member]
  have issued : ∃ asker ∈ affair.asker?, ∃ person, lobby.player? asker = .ok (person, game) :=
    ⟨user, asks, found⟩
  cases affair with
  | retry now number ticket => cases asks
  | _ => exact issued

end Lobby

namespace Venue

variable {settings : Settings} {venue : Venue}

/-- At every venue, what is done in one game leaves all other games and all who are not in it
alone.  So affairs of two games can be attended to in either order: the same comes of each,
the same becomes of the lobby, and every user is told the same of games, in the same order.
The last holds of whatever users ask for; a merge that is retried has to be loyal, as its
sender may have left in the meantime. -/
theorem isolation (settings : Settings) (moves : List Move) :
    let lobby := ((opened settings).run moves).lobby
    (∀ game ∈ lobby.games, ∀ user ∈ game.members, ∀ affair : Affair, affair.asker? = some user →
      affair.At lobby game) ∧
    (∀ (affair : Affair) (game : Game), affair.At lobby game →
      lobby.Beside game (lobby.attend affair).state) ∧
    ∀ (one two : Affair) (game other : Game), one.At lobby game → two.At lobby other →
      game.id ≠ other.id →
      let first := lobby.attend one
      let second := first.state.attend two
      let sooner := lobby.attend two
      let later := sooner.state.attend one
      first.result = later.result ∧ second.result = sooner.result ∧
        second.state.Same later.state ∧
        (one.Loyal game → two.Loyal other → ∀ user,
          Lobby.gameNews user (first.letters ++ second.letters) =
            Lobby.gameNews user (sooner.letters ++ later.letters)) := by
  intro lobby
  have kept := kept_opened settings moves
  have shuttered := shuttered_run settings moves
  have users : ∀ game ∈ lobby.allGames, game.queueUsers = game.queues.map (·.user) :=
    fun game known => (reached_run settings moves game known).slotted.users
  refine ⟨fun game live user member affair asks => Lobby.at_of_member kept live member asks,
    fun affair game place => ?_, fun one two game other placeOne placeTwo differs => ?_⟩
  · obtain ⟨changes, makes⟩ := Lobby.makes_attend (users game place.known) lobby affair
    exact makes.beside kept shuttered place
  · exact Lobby.attend_comm kept shuttered users placeOne placeTwo differs

/-- Ada plays with Bo, and Cy with Di.  A turn of Ada and Bo is there to be merged, and Cy
waits for Di. -/
def twoDuels : List Move :=
  arrival 1 "Ada" ++ arrival 2 "Bo" ++ arrival 3 "Cy" ++ arrival 4 "Di" ++
    [.create 1 "duel", .join 2 1, .create 3 "rematch", .join 4 2, .start 1, .ready 1, .ready 2,
      .start 3, .ready 3, .ready 4, .input 1 [1], .input 2 [2], .input 3 [3]]

/-- Whether Cy closes its game before Ada gets her frame or after that makes no difference. -/
theorem isolation_twoDuels :
    let lobby := ((opened {}).run twoDuels).lobby
    let first := lobby.attend (.retry 0 1 0)
    let sooner := lobby.attend (.leave 3)
    ∃ duel ∈ lobby.games, ∃ rematch ∈ lobby.games, 3 ∈ rematch.members ∧
      (Affair.retry 0 1 0).At lobby duel ∧ (Affair.leave 3).At lobby rematch ∧
      duel.id ≠ rematch.id ∧ (Affair.retry 0 1 0).Loyal duel ∧ (Affair.leave 3).Loyal rematch ∧
      (Lobby.gameNews 1 first.letters).length = 1 ∧ sooner.state.closed.length = 1 ∧
      lobby.Beside duel first.state ∧ lobby.Beside rematch sooner.state ∧
      (first.state.attend (.leave 3)).state.Same (sooner.state.attend (.retry 0 1 0)).state ∧
      ∀ user,
        Lobby.gameNews user (first.letters ++ (first.state.attend (.leave 3)).letters) =
          Lobby.gameNews user
            (sooner.letters ++ (sooner.state.attend (.retry 0 1 0)).letters) := by
  intro lobby first sooner
  obtain ⟨asked, beside, either⟩ := isolation {} twoDuels
  have duel : lobby.games.getD 0 default ∈ lobby.games := by decide +kernel
  have rematch : lobby.games.getD 1 default ∈ lobby.games := by decide +kernel
  have member : 3 ∈ (lobby.games.getD 1 default).members := by decide +kernel
  have retried : (Affair.retry 0 1 0).At lobby (lobby.games.getD 0 default) :=
    ⟨List.mem_append_left _ duel, by decide +kernel⟩
  have leaves := asked _ rematch 3 member (.leave 3) rfl
  have differs : (lobby.games.getD 0 default).id ≠ (lobby.games.getD 1 default).id := by
    decide +kernel
  have within : (lobby.games.getD 0 default).blamed.all
      (· ∈ (lobby.games.getD 0 default).members) = true := by decide +kernel
  have loyal : (Affair.retry 0 1 0).Loyal (lobby.games.getD 0 default) :=
    ⟨fun _ => by decide +kernel,
      fun user blamed => of_decide_eq_true (List.all_eq_true.mp within user blamed)⟩
  obtain ⟨-, -, same, news⟩ := either _ _ _ _ retried leaves differs
  exact ⟨_, duel, _, rematch, member, retried, leaves, differs, loyal, trivial,
    by decide +kernel, by decide +kernel, beside _ _ retried, beside _ _ leaves, same,
    news loyal trivial⟩

/-- Cy hands in input, is kicked before the others do, and joins Di. -/
def newTable : List Move :=
  trio ++ arrival 4 "Di" ++
    [.create 4 "rematch", .input 3 [3], .kick 1 3, .join 3 2, .input 1 [1], .input 2 [2]]

/-- The frame of its old game still comes to Cy, be it before Di says something in the new one
or after that: what happens in the two games is told it in two orders. -/
theorem stray_frame :
    ¬ ∀ (settings : Settings) (moves : List Move) (one two : Affair) (game other : Game),
      let lobby := ((opened settings).run moves).lobby
      one.At lobby game → two.At lobby other → game.id ≠ other.id →
        ∀ user,
          Lobby.gameNews user
              ((lobby.attend one).letters ++ ((lobby.attend one).state.attend two).letters) =
            Lobby.gameNews user
              ((lobby.attend two).letters ++ ((lobby.attend two).state.attend one).letters) := by
  intro commute
  have trio : ((opened {}).run newTable).lobby.games.getD 0 default ∈
      ((opened {}).run newTable).lobby.games := by decide +kernel
  have rematch : ((opened {}).run newTable).lobby.games.getD 1 default ∈
      ((opened {}).run newTable).lobby.games := by decide +kernel
  have retried : (Affair.retry 0 1 0).At ((opened {}).run newTable).lobby
      (((opened {}).run newTable).lobby.games.getD 0 default) :=
    ⟨List.mem_append_left _ trio, by decide +kernel⟩
  have said : (Affair.chat 4 "hello").At ((opened {}).run newTable).lobby
      (((opened {}).run newTable).lobby.games.getD 1 default) :=
    Lobby.at_of_member (kept_opened {} newTable) rematch (by decide +kernel) rfl
  have same := commute {} newTable _ _ _ _ retried said (by decide +kernel) 3
  exact absurd same (by decide +kernel)

end Venue

end Netplay
