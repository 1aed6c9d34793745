/-
Module: Netplay.Proofs.Coherence
Purpose: Whatever happens to a lobby, users and games agree on who is where, and
  the limits of the house are kept.
Main exports:
  Lobby.census, Lobby.Left.census, Lobby.Retains, Lobby.Counted, Lobby.Kept,
  Lobby.invariant_kept, Venue.kept_run, Lobby.Coherent, Venue.coherent_run
-/
import Mathlib.Algebra.Group.Nat.Defs
import Netplay.Proofs.Census
import Netplay.Proofs.Rosters

namespace Netplay

/-! ## Entries -/

/-- What a user's entry says of where it is. -/
def User.guest (user : User) : Guest := ⟨user.id, user.loggedIn, user.game⟩

/-- What a game's entry says of who is there. -/
def Game.party (game : Game) : Party :=
  ⟨game.id, game.owner, game.members, game.kicked, game.settings.maxPlayers.toNat⟩

/-- The entries of the registered users. -/
def Roster.guests (people : Roster) : List Guest := people.present.map (·.guest)

/-- The entries of the registered users and live games of a lobby. -/
def Lobby.census (lobby : Lobby) : Census :=
  ⟨lobby.people.guests, lobby.games.map (·.party)⟩

namespace Roster

variable {people : Roster} {id : UserId} {change : User → User}

/-- A registered user is the person with its number. -/
theorem person_of_mem {user : User} (people : Roster)
    (nodup : (people.present.map (·.id)).Nodup) (registered : user ∈ people.present) :
    people.person user.id = user := by
  unfold Roster.person Roster.find? Roster.registered?
  rw [find?_key nodup registered]
  rfl

theorem ids_guests (people : Roster) :
    people.guests.map (·.id) = people.present.map (·.id) := by
  rw [guests, List.map_map]
  rfl

/-- A change to a user is one to its entry. -/
theorem guests_update {mark : Guest → Guest}
    (follows : ∀ user, (change user).guest = mark user.guest) :
    (people.update id change).guests =
      people.guests.map fun guest => if guest.id = id then mark guest else guest := by
  have entry : ∀ user : User,
      (if user.id = id then change user else user).guest =
        if user.guest.id = id then mark user.guest else user.guest := by
    intro user
    change _ = if user.id = id then mark user.guest else user.guest
    split
    · exact follows user
    · rfl
  unfold update guests
  split
  · simp only [List.map_map]
    exact List.map_congr_left fun user _ => entry user
  · rename_i unregistered
    rw [List.map_map]
    refine List.map_congr_left fun user member => ?_
    refine (if_neg fun same => unregistered ?_).symm
    exact List.any_eq_true.mpr ⟨user, member, decide_eq_true same⟩

/-- Users that are sent away are in no game. -/
theorem guests_dismissed (people : Roster) (members : List UserId) :
    (Room.dismissed people members).guests =
      people.guests.map fun guest =>
        if guest.id ∈ members then { guest with game := none } else guest := by
  unfold Room.dismissed
  induction members generalizing people with
  | nil => simp
  | cons first rest inductionHypothesis =>
      have one := @guests_update people first (·.leaveGame) ({ · with game := none })
        fun _ => rfl
      rw [List.foldl_cons, inductionHypothesis, one, List.map_map]
      refine List.map_congr_left fun guest _ => ?_
      simp only [Function.comp_apply, List.mem_cons]
      by_cases isFirst : guest.id = first
      · simp only [isFirst, if_true, true_or]
        split
        · rfl
        · rfl
      · simp only [isFirst, if_false, false_or]

theorem guests_register (people : Roster) (id : UserId) (address : Address)
    (protocol : String) :
    (people.register (User.connecting id address protocol)).guests =
      people.guests ++ [⟨id, false, none⟩] := by
  rw [register, guests, List.map_append]
  rfl

theorem guests_depart (people : Roster) (user : User) :
    (people.depart user).guests = people.guests.filter (·.id ≠ user.id) := by
  rw [depart, guests, guests, List.filter_map]
  rfl

end Roster

/-! ## Rooms -/

namespace Room

variable {room after : Room} {mayRejoin : Prop}

theorem party_keeps {game later : Game} (keeps : game.Keeps later) :
    later.party = game.party := by
  rw [Game.party, keeps.id, keeps.owner, keeps.members, keeps.kicked, keeps.settings,
    Game.party]

/-- Whatever members play, their entries stay. -/
theorem Plays.guests (plays : room.Plays mayRejoin after) :
    after.people.guests = room.people.guests :=
  (plays.agrees fun _ _ _ => rfl).present

/-- A member that leaves is in no game. -/
theorem guests_left (room : Room) (id : UserId) :
    (room.left id).people.guests = room.people.guests.map fun guest =>
      if guest.id = id then { guest with game := none } else guest := by
  have shed : room.Plays True (room.shed id) := plays_shed id
  have gone := @Roster.guests_update (room.shed id).people id (·.leaveGame)
    ({ · with game := none }) fun _ => rfl
  rw [shed.guests] at gone
  unfold left without
  simp only
  split
  · have numbered : Roster.Agrees User.guest ((room.shed id).people.update id (·.leaveGame)) _ :=
      .numberPlayers (fun player user => show (renumber player user).guest = user.guest from rfl) _
        ((room.shed id).game.members.filter (· ≠ id))
    exact numbered.present.trans gone
  · exact gone

end Room

/-! ## What effects make of the census -/

namespace Lobby

variable {lobby after : Lobby} {game : Game} {id : UserId}

/-- A game whose entry is replaced. -/
theorem census_withRoom (lobby : Lobby) (room : Room) :
    (lobby.withRoom room).census =
      ⟨room.people.guests, (lobby.census.amend room.game.party).parties⟩ := by
  have entry : ∀ other : Game,
      (if other.id = room.game.id then room.game else other).party =
        if other.party.id = room.game.party.id then room.game.party else other.party := by
    intro other
    change _ = if other.id = room.game.id then _ else _
    split
    · rfl
    · rfl
  unfold census withRoom Census.amend
  simp only [List.map_map]
  congr 1
  exact List.map_congr_left fun other _ => entry other

/-- While entries stay, so does the census. -/
theorem census_withRoom_same {room : Room}
    (nodup : (lobby.allGames.map (·.id)).Nodup) (member : game ∈ lobby.allGames)
    (party : room.game.party = game.party) (guests : room.people.guests = lobby.people.guests) :
    (lobby.withRoom room).census = lobby.census := by
  have same : lobby.census.amend game.party = lobby.census := by
    apply Census.amend_self
    intro party partyMember number
    obtain ⟨other, live, rfl⟩ := List.mem_map.mp partyMember
    rw [List.inj_on_of_nodup_map nodup (List.mem_append_left _ live) member number]
  rw [census_withRoom, party, same, guests]
  rfl

/-- A user that joins. -/
theorem census_joined (lobby : Lobby) (game : Game) (id : UserId) :
    (lobby.withRoom ((lobby.room game).joined id)).census =
      lobby.census.enter id game.party := by
  have guests := @Roster.guests_update lobby.people id
    (·.enterGame game.id (UInt8.ofNat (game.members ++ [id]).length))
    ({ · with game := some game.id }) fun _ => rfl
  rw [census_withRoom, Census.enter, Census.amend, Census.move, Census.mark]
  congr 1

/-- A member that leaves. -/
theorem census_left (lobby : Lobby) (game : Game) (id : UserId) :
    (lobby.withRoom ((lobby.room game).left id)).census =
      lobby.census.exit id game.party game.kicked := by
  obtain ⟨before, keeps, leaves⟩ := (lobby.room game).left_game id
  have party : ((lobby.room game).left id).game.party =
      { game.party with members := game.members.filter (· ≠ id) } := by
    rw [leaves, Game.party, keeps.id, keeps.owner, keeps.kicked, keeps.settings, Game.party]
    rfl
  rw [census_withRoom, Room.guests_left, party]
  rfl

/-- A game that is closed. -/
theorem census_shut (lobby : Lobby) (game : Game) (closed : List Game) :
    (lobby.shut game closed).census = lobby.census.disband game.party := by
  unfold census shut Census.disband
  rw [Roster.guests_dismissed, List.filter_map]
  rfl

theorem census_depart (lobby : Lobby) (user : User) :
    Lobby.census { lobby with people := lobby.people.depart user } =
      lobby.census.depart user.id := by
  rw [Lobby.census, Roster.guests_depart]
  rfl

/-- What leaving a game makes of the census. -/
theorem Left.census (left : lobby.Left id game after) (member : id ∈ game.members) :
    after.census =
      if id = game.owner then lobby.census.disband game.party
      else lobby.census.exit id game.party game.kicked := by
  cases left with
  | stays guest =>
      rw [if_neg guest]
      exact census_left lobby game id
  | closes owner room kept =>
      subst room
      obtain ⟨before, keeps, leaves⟩ := (lobby.room game).left_game id
      have party : ((lobby.room game).left id).game.party =
          { game.party with members := game.members.filter (· ≠ id) } := by
        rw [leaves, Game.party, keeps.id, keeps.owner, keeps.kicked, keeps.settings,
          Game.party]
        rfl
      rw [if_pos owner, census_shut, census_left, party]
      exact Census.disband_exit member _

/-! ## The numbers of games -/

/-- The settings stay, and no game gets a number that none had before. -/
structure Retains (lobby after : Lobby) : Prop where
  server : after.server = lobby.server
  rules : after.gameRules = lobby.gameRules
  next : after.nextGame = lobby.nextGame
  nodup : (lobby.allGames.map (·.id)).Nodup → (after.allGames.map (·.id)).Nodup
  busy : (∀ game ∈ lobby.closed, game.inFlight ≠ []) → ∀ game ∈ after.closed, game.inFlight ≠ []
  numbers : after.allGames.map (·.id) ⊆ lobby.allGames.map (·.id)

namespace Retains

variable {last : Lobby}

theorem trans (one : lobby.Retains after) (two : after.Retains last) : lobby.Retains last where
  server := two.server.trans one.server
  rules := two.rules.trans one.rules
  next := two.next.trans one.next
  nodup := fun nodup => two.nodup (one.nodup nodup)
  busy := fun busy => two.busy (one.busy busy)
  numbers := fun _ member => one.numbers (two.numbers member)

/-- Only users change. -/
theorem people (lobby : Lobby) (people : Roster) (counter : UserId) :
    lobby.Retains { lobby with nextUser := counter, people := people } :=
  ⟨rfl, rfl, rfl, id, id, fun _ => id⟩

/-- Something happens in a game. -/
theorem withRoom (lobby : Lobby) (room : Room) : lobby.Retains (lobby.withRoom room) := by
  have replaced : ∀ games : List Game,
      (games.map fun game => if game.id = room.game.id then room.game else game).map (·.id) =
        games.map (·.id) := by
    intro games
    rw [List.map_map]
    refine List.map_congr_left fun game _ => ?_
    simp only [Function.comp_apply]
    split
    · rename_i same
      exact same.symm
    · rfl
  have sublist : ((lobby.withRoom room).allGames.map (·.id)).Sublist
      (lobby.allGames.map (·.id)) := by
    rw [allGames, allGames, List.map_append, List.map_append, ← replaced lobby.games,
      ← replaced lobby.closed]
    exact (List.Sublist.refl _).append (List.filter_sublist.map _)
  exact ⟨rfl, rfl, rfl, sublist.nodup,
    fun _ game member => of_decide_eq_true (List.mem_filter.mp member).2, sublist.subset⟩

/-- A game is closed. -/
theorem shut (live : game ∈ lobby.games) {closed : List Game}
    (kept : closed = lobby.closed ∨
      ∃ last : Game, last.id = game.id ∧ last.inFlight ≠ [] ∧ closed = lobby.closed ++ [last]) :
    lobby.Retains (lobby.shut game closed) := by
  have sublist : ((lobby.shut game closed).allGames.map (·.id)).Sublist
      ((lobby.games.filter (·.id ≠ game.id)).map (·.id) ++
        (lobby.closed.map (·.id) ++ [game.id])) := by
    rw [allGames, List.map_append]
    refine (List.Sublist.refl _).append ?_
    rcases kept with rfl | ⟨last, number, -, rfl⟩
    · exact List.sublist_append_left ..
    · rw [← number, Lobby.shut, List.map_append]
      exact List.Sublist.refl _
  refine ⟨rfl, rfl, rfl, fun nodup => sublist.nodup ?_, fun busy other member => ?_,
    fun number member => ?_⟩
  · -- Moving the game to the closed ones only reorders the numbers.
    rw [allGames, List.map_append] at nodup
    have order := (perm_cons_filter (List.nodup_append.mp nodup).1 live).map (·.id)
    have moved := (List.perm_append_singleton ..).trans
      (order.append_right (lobby.closed.map (·.id)))
    rw [← List.append_assoc]
    exact moved.nodup_iff.mpr nodup
  · have among : other ∈ closed := member
    rcases kept with rfl | ⟨last, -, merging, rfl⟩
    · exact busy other among
    · rcases List.mem_append.mp among with before | itself
      · exact busy other before
      · rwa [List.mem_singleton.mp itself]
  · rw [allGames, List.map_append]
    rcases List.mem_append.mp (sublist.subset member) with others | old
    · exact List.mem_append_left _ ((List.filter_sublist.map _).subset others)
    · rcases List.mem_append.mp old with before | itself
      · exact List.mem_append_right _ before
      · rw [List.mem_singleton.mp itself]
        exact List.mem_append_left _ (List.mem_map.mpr ⟨game, live, rfl⟩)

/-- A member leaves a game. -/
theorem left {id : UserId} (live : game ∈ lobby.games) (left : lobby.Left id game after) :
    lobby.Retains after := by
  cases left with
  | stays guest => exact withRoom lobby _
  | closes owner room kept =>
      subst room
      obtain ⟨before, keeps, leaves⟩ := (lobby.room game).left_game id
      have number : ((lobby.room game).left id).game.id = game.id := by
        rw [leaves]
        exact keeps.id
      refine (withRoom lobby _).trans (shut ?_ (number ▸ kept))
      exact List.mem_map.mpr ⟨game, live, if_pos number.symm⟩

end Retains

/-- An effect that creates no game gives no number. -/
theorem Effect.retains {mayRejoin : Prop} (effect : Effect mayRejoin lobby after) :
    lobby.Retains after := by
  cases effect with
  | nothing => exact .people lobby _ _
  | connect address protocol space positive fresh => exact .people lobby _ _
  | describe id describes => exact .people lobby _ _
  | logIn absent => exact .people lobby _ _
  | play live plays => exact .withRoom lobby _
  | work member works => exact .withRoom lobby _
  | join registered loggedIn free live welcome waiting room => exact .withRoom lobby _
  | leave live member left => exact .left live left
  | @kick target game kicked after live member guest barred left =>
      exact (Retains.withRoom lobby _).trans
        (.left (List.mem_map.mpr ⟨game, live, if_pos rfl⟩) left)
  | depart registered absent => exact .people lobby _ _
  | @departMember user game after registered live member left =>
      have gone := Retains.people lobby (lobby.people.depart user) lobby.nextUser
      exact gone.trans (@Retains.left _ after game user.id live left)

/-! ## What every effect keeps -/

/-- Game numbers have not run out: the next one is that of no game, and no user
looks for a game in vain. -/
structure Counted (created : Nat) (lobby : Lobby) : Prop where
  bound : ∀ number ∈ lobby.allGames.map (·.id), number.toNat ≤ created
  next : lobby.nextGame.toNat = created + 1
  traced : lobby.census.Traced

/-- The books of a lobby are in order: games list users that name them, the
limits of the house are kept, games have numbers of their own, and closed ones
are kept only for merges in flight.  As long as numbers have not run out, users
name games that list them. -/
structure Kept (settings : Settings) (created : Nat) (lobby : Lobby) : Prop where
  server : lobby.server = settings.server
  rules : lobby.gameRules = settings.game
  nodup : (lobby.allGames.map (·.id)).Nodup
  busy : ∀ game ∈ lobby.closed, game.inFlight ≠ []
  coherent : lobby.census.Coherent
  within : lobby.census.Within settings.server.maxUsers settings.server.maxGames
    settings.game.maxPlayers.toNat
  counted : created < 2 ^ 32 - 1 → lobby.Counted created

/-- A registered user has an entry. -/
theorem mem_guests {user : User} (registered : user ∈ lobby.people.present) :
    user.guest ∈ lobby.census.guests :=
  List.mem_map.mpr ⟨user, registered, rfl⟩

/-- A live game has an entry. -/
theorem mem_parties (live : game ∈ lobby.games) : game.party ∈ lobby.census.parties :=
  List.mem_map.mpr ⟨game, live, rfl⟩

namespace Kept

variable {settings : Settings} {created : Nat} {mayRejoin : Prop}

/-- No two registered users have one number. -/
theorem users_nodup (kept : lobby.Kept settings created) :
    (lobby.people.present.map (·.id)).Nodup :=
  lobby.people.ids_guests ▸ kept.coherent.ids.nodup

/-- Members are registered. -/
theorem registered (kept : lobby.Kept settings created) (live : game ∈ lobby.games)
    {member : UserId} (here : member ∈ game.members) :
    ∃ user ∈ lobby.people.present, user.id = member ∧ user.loggedIn = true := by
  obtain ⟨guest, known, number, flag, -⟩ :=
    kept.coherent.seats game.party (mem_parties live) member here
  obtain ⟨user, registered, rfl⟩ := List.mem_map.mp known
  exact ⟨user, registered, number, flag⟩

/-- A registered user whose entry names no game is a member of none. -/
theorem absent {user : User} (kept : lobby.Kept settings created)
    (registered : user ∈ lobby.people.present) (free : user.game = none) :
    lobby.Absent user.id := fun game live =>
  kept.coherent.nowhere (mem_guests registered) free game.party (mem_parties live)

/-- The lists of games are neat. -/
theorem neat (kept : lobby.Kept settings created) : lobby.Neat := ⟨kept.nodup, kept.busy⟩

/-- Live games and their members find each other. -/
theorem placed (kept : lobby.Kept settings created) : lobby.Placed := by
  have coherent := kept.coherent
  have nodup := kept.nodup
  rw [allGames, List.map_append] at nodup
  have here : ∀ user ∈ lobby.people.present, ∀ game ∈ lobby.games,
      user.id ∈ game.members → lobby.gameOf? user = .ok game := by
    intro user registered game live member
    have place : user.game = some game.id :=
      coherent.place (mem_guests registered) (mem_parties live) member
    rw [gameOf?, place]
    simp only
    rw [game?, find?_key (List.nodup_append.mp nodup).1 live]
  refine ⟨fun game live member isMember => ?_, here,
    fun user registered out game live isMember => ?_, kept.neat⟩
  · obtain ⟨user, registered, rfl, -⟩ := kept.registered live isMember
    rw [lobby.people.person_of_mem kept.users_nodup registered]
    exact here user registered game live isMember
  · obtain ⟨other, otherRegistered, number, flag⟩ := kept.registered live isMember
    obtain rfl := List.inj_on_of_nodup_map kept.users_nodup otherRegistered registered number
    exact Bool.false_ne_true (out.symm.trans flag)

/-- Whatever gives no game a number keeps the books in order if it keeps the
census so. -/
theorem of_census (kept : lobby.Kept settings created) (retains : lobby.Retains after)
    {census : Census} (same : after.census = census) (coherent : census.Coherent)
    (within : census.Within settings.server.maxUsers settings.server.maxGames
      settings.game.maxPlayers.toNat)
    (traced : lobby.census.Traced → census.Traced) : after.Kept settings created := by
  subst same
  refine ⟨retains.server.trans kept.server, retains.rules.trans kept.rules,
    retains.nodup kept.nodup, retains.busy kept.busy, coherent, within, fun few => ?_⟩
  obtain ⟨bound, next, traces⟩ := kept.counted few
  refine ⟨fun number member => bound number (retains.numbers member), ?_, traced traces⟩
  rw [retains.next]
  exact next

/-- It does if entries stay. -/
theorem of_same (kept : lobby.Kept settings created) (retains : lobby.Retains after)
    (same : after.census = lobby.census) : after.Kept settings created :=
  kept.of_census retains same kept.coherent kept.within id

/-- A user is registered under a new number. -/
theorem connect {id counter : UserId} {address : Address} {protocol : String}
    (kept : lobby.Kept settings created)
    (space : lobby.people.present.length < lobby.server.maxUsers) (positive : id ≠ 0)
    (fresh : id ∉ lobby.people.present.map (·.id))
    (retains : lobby.Retains { lobby with
      nextUser := counter
      people := lobby.people.register (User.connecting id address protocol) }) :
    Kept settings created { lobby with
      nextUser := counter
      people := lobby.people.register (User.connecting id address protocol) } := by
  have arrives : Lobby.census { lobby with
      nextUser := counter
      people := lobby.people.register (User.connecting id address protocol) } =
        lobby.census.arrive id := by
    rw [Lobby.census, Roster.guests_register]
    rfl
  have space : lobby.census.guests.length < settings.server.maxUsers := by
    rw [kept.server] at space
    exact Nat.lt_of_le_of_lt (Nat.le_of_eq (List.length_map ..)) space
  exact kept.of_census retains arrives
    (kept.coherent.arrive (lobby.people.ids_guests ▸ fresh) positive)
    (kept.within.arrive space id) fun traced => traced.arrive id

/-- A login is complete. -/
theorem logIn (kept : lobby.Kept settings created) (id : UserId)
    (retains : lobby.Retains { lobby with people := lobby.people.update id (·.logIn) }) :
    Kept settings created { lobby with people := lobby.people.update id (·.logIn) } := by
  have guests := @Roster.guests_update lobby.people id (·.logIn)
    ({ · with loggedIn := true }) fun _ => rfl
  have logs : Lobby.census { lobby with people := lobby.people.update id (·.logIn) } =
      lobby.census.logIn id := by
    rw [Lobby.census, guests]
    rfl
  exact kept.of_census retains logs (kept.coherent.logIn id) (kept.within.logIn id)
    fun traced => traced.logIn id

/-- A member leaves, or the game is closed with its owner. -/
theorem left {id : UserId} (kept : lobby.Kept settings created) (live : game ∈ lobby.games)
    (member : id ∈ game.members) (left : lobby.Left id game after)
    (retains : lobby.Retains after) : after.Kept settings created := by
  have coherent := kept.coherent
  have party := mem_parties live
  have leaves := left.census member
  split at leaves
  · exact kept.of_census retains leaves (coherent.disband party) (kept.within.disband _)
      fun traced => traced.disband coherent party
  · rename_i guest
    exact kept.of_census retains leaves (coherent.exit party member guest fun _ => .inl)
      (kept.within.exit party id _) fun traced => traced.exit coherent party id _

/-- A member is sent away. -/
theorem kick {target : UserId} {kicked : List UserId} (kept : lobby.Kept settings created)
    (live : game ∈ lobby.games) (member : target ∈ game.members)
    (guest : target ≠ game.owner)
    (barred : ∀ user, user ∈ kicked ↔ user ∈ game.kicked ∨ user = target)
    (left : (lobby.withRoom { lobby.room game with
        game := { game with kicked := kicked } }).Left target
      { game with kicked := kicked } after)
    (retains : lobby.Retains after) : after.Kept settings created := by
  have party := mem_parties live
  have amended : (lobby.withRoom { lobby.room game with
      game := { game with kicked := kicked } }).census =
        lobby.census.amend { game.party with kicked := kicked } := census_withRoom ..
  have leaves : after.census = lobby.census.exit target game.party kicked := by
    rw [left.census member, if_neg guest, amended]
    exact Census.exit_amend ..
  exact kept.of_census retains leaves
    (kept.coherent.exit party member guest fun user => (barred user).mp)
    (kept.within.exit party target kicked)
    fun traced => traced.exit kept.coherent party target kicked

/-- A user that is in no game leaves the relay. -/
theorem depart {user : User} (kept : lobby.Kept settings created) (absent : lobby.Absent user.id)
    (retains : lobby.Retains { lobby with people := lobby.people.depart user }) :
    Kept settings created { lobby with people := lobby.people.depart user } := by
  refine kept.of_census retains (lobby.census_depart user)
    (kept.coherent.depart fun party member here => ?_) (kept.within.depart user.id)
    fun traced => traced.depart user.id
  obtain ⟨game, live, rfl⟩ := List.mem_map.mp member
  exact absent game live here

/-- A user leaves the relay and its game. -/
theorem departMember {user : User} (kept : lobby.Kept settings created)
    (registered : user ∈ lobby.people.present) (live : game ∈ lobby.games)
    (member : user.id ∈ game.members)
    (left : Left { lobby with people := lobby.people.depart user } user.id game after)
    (retains : lobby.Retains after) : after.Kept settings created := by
  have coherent := kept.coherent
  have party := mem_parties live
  have known := mem_guests registered
  -- In the census the user may as well leave the game first.
  have leaves := left.census member
  rw [census_depart, Census.disband_depart, Census.exit_depart] at leaves
  split at leaves
  · have closed := coherent.disband party
    exact kept.of_census retains leaves (closed.depart (closed.nowhere_disband known member))
      ((kept.within.disband _).depart _)
      fun traced => Census.Traced.depart (traced.disband coherent party) _
  · rename_i guest
    have stays := coherent.exit party member guest fun _ => .inl
    exact kept.of_census retains leaves (stays.depart (stays.nowhere_exit known))
      ((kept.within.exit party _ _).depart _)
      fun traced => Census.Traced.depart (traced.exit coherent party _ _) _

end Kept

/-- Every effect keeps the books in order. -/
theorem invariant_kept (settings : Settings) (created : Nat) (mayRejoin : Prop) :
    Invariant mayRejoin (Kept settings created) where
  placed := Kept.placed
  effect := fun {lobby after} kept effect => by
    have retains := effect.retains
    cases effect with
    | nothing => exact kept
    | connect address protocol space positive fresh =>
        exact kept.connect space positive fresh retains
    | @describe change id describes =>
        have entry : ∀ user, (change user).guest = user.guest := fun user => by
          rw [User.guest, describes.id, describes.loggedIn, describes.game, User.guest]
        exact kept.of_same retains
          (congrArg (Census.mk · _) (Roster.Agrees.update entry lobby.people id).present)
    | @logIn id absent => exact kept.logIn id retains
    | play live plays =>
        exact kept.of_same retains (census_withRoom_same kept.nodup
          (List.mem_append_left _ live) (Room.party_keeps plays.keeps) plays.guests)
    | work member works =>
        exact kept.of_same retains (census_withRoom_same kept.nodup member
          (Room.party_keeps (.of_works works.game)) (congrArg Roster.guests works.people))
    | @join user game registered loggedIn free live welcome waiting room =>
        have party := mem_parties live
        exact kept.of_census retains (census_joined lobby game user.id)
          (kept.coherent.enter (mem_guests registered) loggedIn free party room welcome)
          (kept.within.enter party user.id)
          fun traced => traced.enter kept.coherent party user.id
    | leave live member left => exact kept.left live member left retains
    | kick live member guest barred left =>
        exact kept.kick live member guest barred left retains
    | depart registered absent => exact kept.depart absent retains
    | departMember registered live member left =>
        exact kept.departMember registered live member left retains

/-! ## Creating games -/

section Founding

variable {settings : Settings} {created : Nat} (user : User) (name : String)

/-- A game that is created stands in the census without members. -/
theorem census_withFounded (lobby : Lobby) :
    (lobby.withFounded user name).census =
      lobby.census.add (lobby.founded user name).party := by
  unfold census Lobby.withFounded Census.add
  simp only
  rw [List.map_append, List.filter_map]
  rfl

/-- Creating a game and joining it is founding it in the census. -/
theorem census_founded (lobby : Lobby) :
    ((lobby.withFounded user name).withRoom (lobby.foundedRoom user name)).census =
      lobby.census.found user.id
        { (lobby.founded user name).party with members := [user.id] } := by
  refine (census_joined ..).trans ?_
  rw [census_withFounded]
  exact Census.enter_add ..

/-- Zero is no game's number. -/
theorem founded_positive (lobby : Lobby) : (lobby.founded user name).id ≠ 0 := by
  change (allocateGame lobby.nextGame).1 ≠ 0
  unfold allocateGame
  split
  · decide
  · assumption

/-- The number of a game that is created is that of no other. -/
theorem nodup_withFounded (nodup : (lobby.allGames.map (·.id)).Nodup) :
    ((lobby.withFounded user name).allGames.map (·.id)).Nodup := by
  have moved : ((lobby.founded user name).id ::
      (lobby.allGames.filter (·.id ≠ (lobby.founded user name).id)).map (·.id)).Perm
        ((lobby.withFounded user name).allGames.map (·.id)) := by
    rw [allGames, allGames, Lobby.withFounded, List.append_assoc, List.filter_append,
      List.map_append, List.map_append]
    exact List.perm_middle.symm
  rw [← moved.nodup_iff, List.nodup_cons]
  refine ⟨fun taken => ?_, (List.filter_sublist.map _).nodup nodup⟩
  obtain ⟨other, member, same⟩ := List.mem_map.mp taken
  exact of_decide_eq_true (List.mem_filter.mp member).2 same

/-- A game that is created leaves the lists of games neat. -/
theorem Neat.withFounded (neat : lobby.Neat) : (lobby.withFounded user name).Neat :=
  ⟨nodup_withFounded user name neat.nodup,
    fun game member => neat.busy game (List.mem_filter.mp member).1⟩

/-- One in which nothing happens is where it was put. -/
theorem Neat.founded_self (neat : lobby.Neat) :
    (lobby.withFounded user name).withRoom
      ((lobby.withFounded user name).room (lobby.founded user name)) =
        lobby.withFounded user name :=
  (neat.withFounded user name).withRoom_self
    (List.mem_append_left _ (List.mem_append_right _ List.mem_cons_self))

/-- As long as numbers have not run out, a game that is created gets a new one. -/
theorem Counted.founded (counted : lobby.Counted created) (few : created + 1 < 2 ^ 32 - 1) :
    (lobby.founded user name).id.toNat = created + 1 ∧
      (lobby.withFounded user name).nextGame.toNat = created + 1 + 1 := by
  have next := counted.next
  have positive : lobby.nextGame ≠ 0 := by
    intro zero
    rw [zero] at next
    cases next
  have number : allocateGame lobby.nextGame = (lobby.nextGame, lobby.nextGame + 1) :=
    if_neg positive
  constructor
  · rw [Lobby.founded, number]
    exact next
  · rw [Lobby.withFounded, number]
    simp only
    rw [UInt32.toNat_add, next, UInt32.toNat_one]
    exact Nat.mod_eq_of_lt (by omega)

/-- No earlier game has its number. -/
theorem Counted.fresh (counted : lobby.Counted created) (few : created + 1 < 2 ^ 32 - 1) :
    (lobby.founded user name).party.id ∉ lobby.census.parties.map (·.id) := by
  intro taken
  obtain ⟨party, member, same⟩ := List.mem_map.mp taken
  obtain ⟨game, live, rfl⟩ := List.mem_map.mp member
  have same : game.id = (lobby.founded user name).id := same
  have old := counted.bound game.id
    (List.mem_map.mpr ⟨game, List.mem_append_left _ live, rfl⟩)
  rw [same, (counted.founded user name few).1] at old
  exact absurd old (Nat.not_succ_le_self created)

/-- No number is greater than the new one. -/
theorem Counted.bound_withFounded (counted : lobby.Counted created)
    (few : created + 1 < 2 ^ 32 - 1) :
    ∀ number ∈ (lobby.withFounded user name).allGames.map (·.id),
      number.toNat ≤ created + 1 := by
  intro number taken
  obtain ⟨game, member, rfl⟩ := List.mem_map.mp taken
  have older : game ∈ lobby.allGames → game.id.toNat ≤ created + 1 := fun old =>
    Nat.le_succ_of_le (counted.bound _ (List.mem_map.mpr ⟨game, old, rfl⟩))
  rcases List.mem_append.mp member with live | closed
  · rcases List.mem_append.mp live with old | new
    · exact older (List.mem_append_left _ (List.mem_filter.mp old).1)
    · rw [List.mem_singleton.mp new]
      exact Nat.le_of_eq (counted.founded user name few).1
  · exact older (List.mem_append_right _ (List.mem_filter.mp closed).1)

end Founding

/-- What is created is counted. -/
theorem nextGame_withFounded (lobby : Lobby) (user : User) (name : String) :
    (lobby.withFounded user name).nextGame ≠ lobby.nextGame := by
  change (allocateGame lobby.nextGame).2 ≠ lobby.nextGame
  unfold allocateGame
  split
  · rename_i zero
    rw [zero]
    decide
  · intro same
    have one := (UInt32.add_right_inj lobby.nextGame).mp
      (same.trans (UInt32.add_zero lobby.nextGame).symm)
    exact absurd one (by decide)

/-- A game that is created keeps the books in order. -/
theorem Kept.create {settings : Settings} {created : Nat}
    (kept : lobby.Kept settings created) (id : UserId) (name : String) :
    (lobby.createGame id name).state.Kept settings
      (if (lobby.createGame id name).state.nextGame = lobby.nextGame then created
        else created + 1) := by
  have rules := kept.rules
  rcases lobby.createGame_cases id name with
    refused | ⟨user, registered, -, loggedIn, free, space, made⟩
  · rw [refused.state, if_pos rfl]
    exact kept
  · have nextGame := lobby.nextGame_withFounded user name
    have positive := lobby.founded_positive user name
    have neat := kept.neat.withFounded user name
    have more : 0 < settings.server.maxGames →
        lobby.census.parties.length < settings.server.maxGames := by
      rw [kept.server] at space
      intro limited
      exact Nat.lt_of_le_of_lt (Nat.le_of_eq (List.length_map ..)) (space limited)
    have places : (lobby.founded user name).party.places = settings.game.maxPlayers.toNat :=
      congrArg (·.maxPlayers.toNat) rules
    rcases made with ⟨closed, state⟩ | ⟨some, makes⟩
    · rw [state, kept.neat.founded_self, if_neg nextGame]
      have census := lobby.census_withFounded user name
      refine ⟨kept.server, rules, neat.nodup, neat.busy, ?_, ?_, fun few => ?_⟩
      · rw [census]
        refine kept.coherent.add positive rfl ⟨List.nodup_nil, fun open_ => ?_,
          Nat.zero_le _, fun _ member => by cases member⟩
        exact absurd (Nat.lt_of_lt_of_eq open_ closed) (Nat.lt_irrefl 0)
      · rw [census]
        exact kept.within.add more places
      · have counted := kept.counted (Nat.lt_of_succ_lt few)
        refine ⟨counted.bound_withFounded user name few, (counted.founded user name few).2, ?_⟩
        rw [census]
        exact counted.traced.add (counted.fresh user name few)
    · have nextGame : ((lobby.withFounded user name).withRoom
          (lobby.foundedRoom user name)).nextGame ≠ lobby.nextGame := nextGame
      rw [makes.state, if_neg nextGame]
      have census := lobby.census_founded user name
      have retains := Retains.withRoom (lobby.withFounded user name)
        (lobby.foundedRoom user name)
      refine ⟨kept.server, rules, retains.nodup neat.nodup, retains.busy neat.busy, ?_, ?_,
        fun few => ?_⟩
      · rw [census]
        exact kept.coherent.found (mem_guests registered) loggedIn free positive rfl
          ⟨List.nodup_singleton _, fun _ => rfl, some, fun _ _ barred => by cases barred⟩
      · rw [census]
        exact kept.within.found more user.id places
      · have counted := kept.counted (Nat.lt_of_succ_lt few)
        refine ⟨fun number member => counted.bound_withFounded user name few number
          (retains.numbers member), (counted.founded user name few).2, ?_⟩
        rw [census]
        exact counted.traced.found (counted.fresh user name few) rfl

/-! ## Runs -/

/-- Users and games agree, and the limits of the house are kept: a user's entry
names a game exactly if that is a live game which lists the user, once; members
are registered, logged in and in no second game; the owner comes first; no game
is empty or overfull or has a member it has sent away; and numbers are given
once each and are not zero. -/
structure Coherent (settings : Settings) (lobby : Lobby) : Prop where
  place : ∀ user ∈ lobby.people.present, ∀ number, user.game = some number ↔
    ∃ game ∈ lobby.games, game.id = number ∧ game.members.count user.id = 1
  registered : ∀ game ∈ lobby.games, ∀ member ∈ game.members,
    ∃ user ∈ lobby.people.present, user.id = member ∧ user.loggedIn = true
  once : ∀ game ∈ lobby.games, game.members.Nodup
  lone : ∀ game ∈ lobby.games, ∀ other ∈ lobby.games, ∀ member ∈ game.members,
    member ∈ other.members → game = other
  owner : ∀ game ∈ lobby.games, game.members.head? = some game.owner
  size : ∀ game ∈ lobby.games, 1 ≤ game.members.length ∧
    game.members.length ≤ settings.game.maxPlayers.toNat
  fair : ∀ game ∈ lobby.games, ∀ member ∈ game.members, member ∉ game.kicked
  users : lobby.people.present.length ≤ settings.server.maxUsers
  games : 0 < settings.server.maxGames → lobby.games.length ≤ settings.server.maxGames
  userIds : Distinct (lobby.people.present.map (·.id))
  gameIds : Distinct (lobby.games.map (·.id))

/-- Books that are in order say so, where games have room for anybody at all
and numbers have not run out. -/
theorem Kept.coherent_lobby {settings : Settings} {created : Nat}
    (kept : lobby.Kept settings created) (places : 1 ≤ settings.game.maxPlayers.toNat)
    (few : created < 2 ^ 32 - 1) : lobby.Coherent settings := by
  have coherent := kept.coherent
  have inOrder := fun game live => coherent.parties (Game.party game) (mem_parties live)
  have numbers : lobby.census.parties.map (·.id) = lobby.games.map (·.id) := by
    rw [census, List.map_map]
    rfl
  have unique : ∀ game ∈ lobby.games, ∀ other ∈ lobby.games,
      game.id = other.id → game = other := fun game live other otherLive same =>
    List.inj_on_of_nodup_map (numbers ▸ coherent.numbers.nodup) live otherLive same
  have led : ∀ game ∈ lobby.games, game.members.head? = some game.owner :=
    fun game live => (inOrder game live).led (by
      rw [kept.within.places game.party (mem_parties live)]
      exact places)
  refine ⟨fun user registered number => ⟨fun place => ?_, ?_⟩,
    fun game live member here => kept.registered live here,
    fun game live => (inOrder game live).once, fun game live other otherLive member here there =>
      unique game live other otherLive (congrArg Party.id
        (coherent.lone (mem_parties live) (mem_parties otherLive) here there)),
    led, fun game live => ⟨?_, ?_⟩,
    fun game live => (inOrder game live).fair, ?_, fun limited => ?_,
    lobby.people.ids_guests ▸ coherent.ids, numbers ▸ coherent.numbers⟩
  · obtain ⟨party, member, same, here⟩ :=
      (kept.counted few).traced user.guest (mem_guests registered) number place
    obtain ⟨game, live, rfl⟩ := List.mem_map.mp member
    exact ⟨game, live, same, List.count_eq_one_of_mem (inOrder game live).once here⟩
  · rintro ⟨game, live, rfl, one⟩
    refine coherent.place (mem_guests registered) (mem_parties live) ?_
    exact List.count_pos_iff.mp (Nat.lt_of_lt_of_eq Nat.one_pos one.symm)
  · have led := led game live
    cases members : game.members with
    | nil =>
        rw [members] at led
        cases led
    | cons first rest => exact Nat.succ_pos _
  · rw [← kept.within.places game.party (mem_parties live)]
    exact (inOrder game live).room
  · exact Nat.le_trans (Nat.le_of_eq (List.length_map ..).symm) kept.within.users
  · exact Nat.le_trans (Nat.le_of_eq (List.length_map ..).symm) (kept.within.games limited)

/-- A lobby without users and games is in order. -/
theorem kept_empty (settings : Settings) : (Lobby.empty settings).Kept settings 0 where
  server := rfl
  rules := rfl
  nodup := List.nodup_nil
  busy := List.forall_mem_nil _
  coherent :=
    ⟨⟨List.nodup_nil, fun zero => by cases zero⟩, ⟨List.nodup_nil, fun zero => by cases zero⟩,
      fun _ member => (by cases member), fun _ member => by cases member⟩
  within := ⟨Nat.zero_le _, fun _ => Nat.zero_le _, fun _ member => by cases member⟩
  counted := fun _ => ⟨fun _ member => (by cases member), rfl, fun _ member => by cases member⟩

end Lobby

namespace Venue

variable {settings : Settings} {venue : Venue}

/-- Only creating a game counts. -/
theorem created_step {move : Move} (creates : ¬ move.Creates) :
    (venue.step move).created = venue.created := by
  cases move with
  | create user name => exact absurd trivial creates
  | retry game ticket =>
      rw [step, retry]
      split
      · rfl
      · split
        · rfl
        · split
          · rfl
          · rfl
  | _ => rfl

/-- Every move keeps the books in order. -/
theorem kept_step (kept : venue.lobby.Kept settings venue.created) (move : Move) :
    (venue.step move).lobby.Kept settings (venue.step move).created := by
  by_cases creates : move.Creates
  · cases move with
    | create user name => exact kept.create user name
    | _ => exact absurd creates id
  · rw [created_step creates]
    exact invariant_step (Lobby.invariant_kept settings venue.created True) kept creates
      fun _ => trivial

/-- So does every run. -/
theorem kept_run (kept : venue.lobby.Kept settings venue.created) (moves : List Move) :
    (venue.run moves).lobby.Kept settings (venue.run moves).created := by
  induction moves generalizing venue with
  | nil => exact kept
  | cons move rest inductionHypothesis => exact inductionHypothesis (kept_step kept move)

/-- Whatever happens at a venue where games have room for anybody at all, and
where game numbers do not run out, users and games agree on who is where, and
the limits of the house are kept. -/
theorem coherent_run (settings : Settings) (places : 1 ≤ settings.game.maxPlayers.toNat)
    (moves : List Move) (few : ((opened settings).run moves).created < 2 ^ 32 - 1) :
    ((opened settings).run moves).lobby.Coherent settings := by
  have opens : (opened settings).lobby.Kept settings (opened settings).created :=
    Lobby.kept_empty settings
  exact (kept_run opens moves).coherent_lobby places few

/-- A user comes and logs in. -/
def arrival (user : UserId) (name : String) : List Move :=
  [.connect ⟨"10.0.0.1", 6000⟩ "0.83", .introduce user name "MAME" 1, .measure user 10,
    .login user]

/-- Ada creates a game, sends Cy away and plays with Bo, who quits in the middle
of the round.  Cy creates a game of its own, which Di joins, and leaves it
again.  Di comes back before the old session has ended, and joins Ada once the
round is over. -/
def busyDay : List Move :=
  arrival 1 "Ada" ++ arrival 2 "Bo" ++ arrival 3 "Cy" ++ arrival 4 "Di" ++
    [.create 1 "duel", .join 2 1, .join 3 1, .kick 1 3, .create 3 "solo", .join 4 2,
      .start 1, .ready 1, .ready 2, .input 1 [1], .quit 2 "bye", .leave 3] ++
    arrival 5 "Di" ++ [.join 5 1, .drop 1, .join 5 1]

/-- Such a day leaves a game with two members, and all agree on it. -/
theorem coherent_run_busyDay :
    1 ≤ ({} : Settings).game.maxPlayers.toNat ∧
      ((opened {}).run busyDay).created < 2 ^ 32 - 1 ∧
      ((opened {}).run busyDay).lobby.games.map (·.members) = [[1, 5]] ∧
      ((opened {}).run busyDay).lobby.Coherent {} := by
  have places : 1 ≤ ({} : Settings).game.maxPlayers.toNat := by decide
  have few : ((opened {}).run busyDay).created < 2 ^ 32 - 1 := by decide +kernel
  exact ⟨places, few, by decide +kernel, coherent_run {} places busyDay few⟩

end Venue

end Netplay
