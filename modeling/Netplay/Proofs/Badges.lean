/-
Module: Netplay.Proofs.Badges
Purpose: What users are known by, through everything that happens to them, and
  that every live game has an owner whom everyone has seen log in.
Main exports:
  User.key, Badge, User.badge, Roster.badges, Roster.audience, Roster.Dated,
  Roster.Known, Roster.Remembers, Roster.Turnover, Game.ownerName_of_badge, Lobby.Named,
  Lobby.Effect.turnover, Venue.people_step, Venue.named_step
-/
import Netplay.Proofs.Coherence

namespace Netplay

open Roster (Agrees)

/-! ## Badges -/

/-- What tells a user from all others, present or departed. -/
def User.key (user : User) : UserId × Nat := (user.id, user.serial)

/-- What everyone knows of a user. -/
structure Badge where
  key : UserId × Nat
  name : String
  loggedIn : Bool
deriving DecidableEq

def User.badge (user : User) : Badge := ⟨user.key, user.name, user.loggedIn⟩

theorem User.lasting_badge : User.Lasting User.badge := fun _ _ _ _ => rfl

/-- The number of a user, and whether it is logged in. -/
def User.flag (user : User) : UserId × Bool := (user.id, user.loggedIn)

namespace Roster

/-- The registered users and those who have left. -/
def everyone (people : Roster) : List User := people.present ++ people.departed

def badges (people : Roster) : List Badge := people.everyone.map (·.badge)

/-- The numbers of those who hear what is told to everyone logged in. -/
def audience (people : Roster) : List UserId :=
  (people.present.filter (·.loggedIn)).map (·.id)

variable {people after : Roster} {id : UserId} {change : User → User} {user : User}

theorem Agrees.map {α β : Type} {entry : User → α} (agrees : Agrees entry people after)
    (read : α → β) : Agrees (read ∘ entry) people after := by
  refine ⟨?_, ?_⟩
  · rw [← List.map_map, ← List.map_map, agrees.present]
  · rw [← List.map_map, ← List.map_map, agrees.departed]

theorem Agrees.everyone {α : Type} {entry : User → α} (agrees : Agrees entry people after) :
    after.everyone.map entry = people.everyone.map entry := by
  rw [Roster.everyone, List.map_append, agrees.present, agrees.departed, Roster.everyone,
    List.map_append]

/-- Who hears what depends on numbers and logins only. -/
theorem audience_flags (agrees : Agrees User.flag people after) :
    after.audience = people.audience := by
  have read (people : Roster) : people.audience =
      ((people.present.map (·.flag)).filter (·.2)).map (·.1) := by
    rw [List.filter_map, List.map_map]
    rfl
  rw [read, agrees.present, read]

theorem Agrees.audience (agrees : Agrees User.badge people after) :
    after.audience = people.audience :=
  audience_flags (agrees.map fun badge => (badge.key.1, badge.loggedIn))

theorem mem_audience : id ∈ people.audience ↔
    ∃ user ∈ people.present, user.loggedIn = true ∧ user.id = id := by
  simp [audience, and_assoc]

/-! ## Looking users up -/

/-- Looking for the very user is looking for its badge. -/
theorem same?_badge (people : Roster) (id : UserId) (serial : Nat) :
    (people.same? id serial).map (·.badge) = people.badges.find? (·.key = (id, serial)) := by
  have search : ((fun badge : Badge => decide (badge.key = (id, serial))) ∘ User.badge) =
      fun user => decide (user.id = id) && decide (user.serial = serial) := by
    funext user
    simp [User.badge, User.key, Bool.decide_and]
  rw [badges, List.find?_map, search]
  rfl

/-- A change to one user leaves everyone else, and is made to the one who is
found under the number. -/
theorem mem_everyone_update (change : User → User) (nodup : (people.present.map (·.id)).Nodup)
    (member : user ∈ people.everyone) :
    user ∈ (people.update id change).everyone ∨
      people.find? id = some user ∧ change user ∈ (people.update id change).everyone := by
  unfold update
  split
  · rename_i registered
    rcases List.mem_append.mp member with present | departed
    · have later := List.mem_append_left people.departed
        (List.mem_map_of_mem (f := fun user => if user.id = id then change user else user) present)
      by_cases same : user.id = id
      · rw [if_pos same] at later
        refine .inr ⟨?_, later⟩
        rw [find?, registered?, ← same, find?_key nodup present]
      · rw [if_neg same] at later
        exact .inl later
    · exact .inl (List.mem_append_right _ departed)
  · rename_i unregistered
    rcases List.mem_append.mp member with present | departed
    · exact .inl (List.mem_append_left _ present)
    · obtain ⟨place, found⟩ := List.getElem?_of_mem departed
      have later := List.getElem?_modify change
        (people.departed.findIdx (·.id = id)) people.departed place
      rw [found, Option.map_eq_map, Option.map_some] at later
      split at later
      · rename_i first
        refine .inr ⟨?_, List.mem_append_right _ (List.mem_of_getElem? later)⟩
        have nobody : people.registered? id = none := by
          rw [registered?, List.find?_eq_none]
          exact fun other here same => unregistered (List.any_eq_true.mpr ⟨other, here, same⟩)
        rw [find?, nobody]
        subst first
        exact (List.find?_eq_getElem?_findIdx ..).trans found
      · exact .inl (List.mem_append_right _ (List.mem_of_getElem? later))

/-! ## Serials -/

/-- No two users have number and serial in common, for a serial counts those who
had left before its user came. -/
structure Dated (people : Roster) : Prop where
  unique : (people.everyone.map (·.key)).Nodup
  present : ∀ user ∈ people.present, user.serial ≤ people.departed.length
  departed : ∀ user ∈ people.departed, user.serial < people.departed.length

namespace Dated

theorem empty : Roster.empty.Dated :=
  ⟨List.nodup_nil, fun _ member => (by cases member), fun _ member => by cases member⟩

theorem of_agrees (dated : people.Dated) (agrees : Agrees User.key people after) :
    after.Dated := by
  have length : after.departed.length = people.departed.length := by
    have same := congrArg List.length agrees.departed
    rwa [List.length_map, List.length_map] at same
  have serial {users later : List User} (same : later.map (·.key) = users.map (·.key))
      {user : User} (member : user ∈ later) : ∃ old ∈ users, old.serial = user.serial := by
    obtain ⟨old, here, keys⟩ := List.mem_map.mp (same ▸ List.mem_map_of_mem member)
    exact ⟨old, here, congrArg Prod.snd keys⟩
  refine ⟨agrees.everyone ▸ dated.unique, fun user member => ?_, fun user member => ?_⟩
  · obtain ⟨old, here, same⟩ := serial agrees.present member
    rw [length, ← same]
    exact dated.present old here
  · obtain ⟨old, here, same⟩ := serial agrees.departed member
    rw [length, ← same]
    exact dated.departed old here

theorem register (dated : people.Dated) (fresh : user.id ∉ people.present.map (·.id)) :
    (people.register user).Dated := by
  refine ⟨?_, fun other member => ?_, dated.departed⟩
  · have order : (people.register user).everyone.Perm
        ({ user with serial := people.departed.length } :: people.everyone) := by
      rw [everyone, Roster.register, List.append_assoc]
      exact List.perm_middle
    rw [(order.map _).nodup_iff, List.map_cons, List.nodup_cons]
    refine ⟨fun member => ?_, dated.unique⟩
    obtain ⟨other, here, same⟩ := List.mem_map.mp member
    obtain ⟨number, serial⟩ := Prod.mk.inj same
    rcases List.mem_append.mp here with present | departed
    · exact fresh (List.mem_map.mpr ⟨other, present, number⟩)
    · exact Nat.lt_irrefl _ (serial ▸ dated.departed other departed)
  · rcases List.mem_append.mp member with old | new
    · exact dated.present other old
    · rw [List.mem_singleton.mp new]
      exact Nat.le_refl _

end Dated

/-- Whoever leaves only changes places. -/
theorem everyone_depart (nodup : (people.present.map (·.id)).Nodup)
    (member : user ∈ people.present) : (people.depart user).everyone.Perm people.everyone := by
  rw [everyone, depart]
  exact List.perm_middle.trans ((perm_cons_filter nodup member).append_right _)

theorem Dated.depart (dated : people.Dated) (nodup : (people.present.map (·.id)).Nodup)
    (member : user ∈ people.present) : (people.depart user).Dated := by
  refine ⟨((everyone_depart nodup member).map _).nodup_iff.mpr dated.unique,
    fun other here => ?_, fun other here => ?_⟩
  · exact Nat.le_succ_of_le (dated.present other (List.mem_of_mem_filter here))
  · rcases List.mem_cons.mp here with rfl | before
    · exact Nat.lt_succ_of_le (dated.present other member)
    · exact Nat.lt_succ_of_lt (dated.departed other before)

/-! ## Who has logged in -/

/-- Someone with that key has logged in. -/
def Known (people : Roster) (key : UserId × Nat) : Prop :=
  ∃ user ∈ people.everyone, user.key = key ∧ user.loggedIn = true

/-- Nobody who has logged in is forgotten or goes by another name. -/
def Remembers (people after : Roster) : Prop :=
  ∀ badge ∈ people.badges, badge.loggedIn = true → badge ∈ after.badges

theorem Agrees.remembers (agrees : Agrees User.badge people after) : people.Remembers after := by
  intro badge member _
  rw [badges, agrees.everyone]
  exact member

theorem remembers_register (people : Roster) (user : User) :
    people.Remembers (people.register user) := by
  intro badge member _
  obtain ⟨other, here, rfl⟩ := List.mem_map.mp member
  refine List.mem_map_of_mem ?_
  rcases List.mem_append.mp here with present | departed
  · exact List.mem_append_left _ (List.mem_append_left _ present)
  · exact List.mem_append_right _ departed

theorem remembers_depart (nodup : (people.present.map (·.id)).Nodup)
    (member : user ∈ people.present) : people.Remembers (people.depart user) :=
  fun _ badge _ => ((everyone_depart nodup member).map _).mem_iff.mpr badge

/-- A change to a user who has logged in must leave its badge alone. -/
theorem remembers_update (nodup : (people.present.map (·.id)).Nodup)
    (keeps : ∀ user, people.find? id = some user → user.loggedIn = true →
      (change user).badge = user.badge) :
    people.Remembers (people.update id change) := by
  intro badge member flag
  obtain ⟨user, here, rfl⟩ := List.mem_map.mp member
  rcases mem_everyone_update change nodup here with stays | ⟨found, changed⟩
  · exact List.mem_map_of_mem stays
  · exact keeps user found flag ▸ List.mem_map_of_mem changed

namespace Known

variable {key : UserId × Nat}

theorem remembers (known : people.Known key) (remembers : people.Remembers after) :
    after.Known key := by
  obtain ⟨user, member, rfl, flag⟩ := known
  obtain ⟨later, here, same⟩ := List.mem_map.mp
    (remembers user.badge (List.mem_map_of_mem member) flag)
  exact ⟨later, here, congrArg Badge.key same, (congrArg Badge.loggedIn same).trans flag⟩

/-- Nobody gets another key or is logged out. -/
theorem update (known : people.Known key) (nodup : (people.present.map (·.id)).Nodup)
    (keeps : ∀ user, (change user).key = user.key)
    (flags : ∀ user, user.loggedIn = true → (change user).loggedIn = true) :
    (people.update id change).Known key := by
  obtain ⟨user, member, rfl, flag⟩ := known
  rcases mem_everyone_update change nodup member with stays | ⟨-, changed⟩
  · exact ⟨user, stays, rfl, flag⟩
  · exact ⟨_, changed, keeps user, flags user flag⟩

end Known

/-! ## Turnover -/

/-- What can become of a roster: badges stay, somebody registers, somebody is
changed who keeps its key and its login, or somebody leaves. -/
inductive Turnover (people : Roster) : Roster → Prop where
  | stays {after : Roster} (agrees : Agrees User.badge people after) : Turnover people after
  | registers (user : User) (fresh : user.id ∉ people.present.map (·.id)) :
      Turnover people (people.register user)
  | changes {change : User → User} (id : UserId) (keys : ∀ user, (change user).key = user.key)
      (flags : ∀ user, user.loggedIn = true → (change user).loggedIn = true) :
      Turnover people (people.update id change)
  | departs {user : User} {after : Roster} (registered : user ∈ people.present)
      (agrees : Agrees User.badge (people.depart user) after) : Turnover people after

namespace Turnover

variable {key : UserId × Nat}

theorem dated (turnover : people.Turnover after) (nodup : (people.present.map (·.id)).Nodup)
    (dated : people.Dated) : after.Dated := by
  cases turnover with
  | stays agrees => exact dated.of_agrees (agrees.map Badge.key)
  | registers user fresh => exact dated.register fresh
  | changes id keys flags => exact dated.of_agrees (.update keys _ id)
  | departs registered agrees =>
      exact (dated.depart nodup registered).of_agrees (agrees.map Badge.key)

theorem known (turnover : people.Turnover after) (nodup : (people.present.map (·.id)).Nodup)
    (known : people.Known key) : after.Known key := by
  cases turnover with
  | stays agrees => exact known.remembers agrees.remembers
  | registers user fresh => exact known.remembers (remembers_register _ _)
  | changes id keys flags => exact known.update nodup keys flags
  | departs registered agrees =>
      exact (known.remembers (remembers_depart nodup registered)).remembers agrees.remembers

/-- Nobody who has left comes back: a newcomer with the same number has another key. -/
theorem gone (turnover : people.Turnover after) (gone : key ∈ people.departed.map (·.key)) :
    key ∈ after.departed.map (·.key) := by
  cases turnover with
  | stays agrees =>
      have same := (agrees.map Badge.key).departed
      exact same ▸ gone
  | registers user fresh => exact gone
  | changes id keys flags => exact (Agrees.update keys people id).departed ▸ gone
  | departs registered agrees =>
      have same := (agrees.map Badge.key).departed
      exact same ▸ List.mem_cons_of_mem _ gone

end Turnover

end Roster

/-! ## The names of owners -/

namespace Game

variable {game : Game} {people after : Roster}

/-- The name is read off the badge of the owner. -/
theorem ownerName_eq (game : Game) (people : Roster) : game.ownerName people =
    ((people.badges.find? (·.key = (game.owner, game.ownerSerial))).map (·.name)).getD "" := by
  rw [← Roster.same?_badge, ownerName]
  cases people.same? game.owner game.ownerSerial with
  | none => rfl
  | some owner => rfl

theorem ownerName_of_badge (dated : people.Dated) {badge : Badge} (member : badge ∈ people.badges)
    (owner : badge.key = (game.owner, game.ownerSerial)) : game.ownerName people = badge.name := by
  have unique : (people.badges.map (·.key)).Nodup := by
    rw [Roster.badges, List.map_map]
    exact dated.unique
  rw [ownerName_eq, ← owner, find?_key unique member]
  rfl

theorem ownerName_agrees (game : Game) (agrees : Agrees User.badge people after) :
    game.ownerName after = game.ownerName people := by
  rw [ownerName_eq, Roster.badges, agrees.everyone, ownerName_eq, Roster.badges]

/-- An owner who has logged in keeps its name. -/
theorem ownerName_remembers (known : people.Known (game.owner, game.ownerSerial))
    (before : people.Dated) (later : after.Dated) (remembers : people.Remembers after) :
    game.ownerName after = game.ownerName people := by
  obtain ⟨owner, member, key, flag⟩ := known
  have badge : owner.badge ∈ people.badges := List.mem_map_of_mem member
  rw [ownerName_of_badge later (remembers owner.badge badge flag) key,
    ownerName_of_badge before badge key]

end Game

/-! ## Owners -/

namespace Lobby

variable {lobby after : Lobby} {game : Game} {id : UserId}

/-- Users can be told apart, and the owner of each live game has logged in. -/
structure Named (lobby : Lobby) : Prop where
  dated : lobby.people.Dated
  owners : ∀ game ∈ lobby.games, lobby.people.Known (game.owner, game.ownerSerial)

/-- Every live game has the owner of one that was live before. -/
def Inherits (lobby after : Lobby) : Prop :=
  ∀ game ∈ after.games, ∃ earlier ∈ lobby.games,
    earlier.owner = game.owner ∧ earlier.ownerSerial = game.ownerSerial

namespace Inherits

theorem of_subset (subset : after.games ⊆ lobby.games) : lobby.Inherits after :=
  fun game member => ⟨game, subset member, rfl, rfl⟩

theorem trans {last : Lobby} (one : lobby.Inherits after) (two : after.Inherits last) :
    lobby.Inherits last := by
  intro game member
  obtain ⟨middle, middleMember, owner, serial⟩ := two game member
  obtain ⟨earlier, live, first, second⟩ := one middle middleMember
  exact ⟨earlier, live, first.trans owner, second.trans serial⟩

/-- Something happens in a game, live or closed. -/
theorem withRoom (nodup : (lobby.allGames.map (·.id)).Nodup) (member : game ∈ lobby.allGames)
    {room : Room} (number : room.game.id = game.id) (owner : room.game.owner = game.owner)
    (serial : room.game.ownerSerial = game.ownerSerial) :
    lobby.Inherits (lobby.withRoom room) := by
  intro target live
  rcases mem_games_withRoom live with ⟨rfl, other, otherLive, same⟩ | ⟨old, -⟩
  · have itself : other = game := List.inj_on_of_nodup_map nodup
      (List.mem_append_left _ otherLive) member (same.trans number)
    exact ⟨other, otherLive, itself ▸ owner.symm, itself ▸ serial.symm⟩
  · exact ⟨target, old, rfl, rfl⟩

/-- A member leaves a game. -/
theorem left (nodup : (lobby.allGames.map (·.id)).Nodup) (live : game ∈ lobby.games)
    (left : lobby.Left id game after) : lobby.Inherits after := by
  obtain ⟨before, keeps, leaves⟩ := (lobby.room game).left_game id
  have stays : lobby.Inherits (lobby.withRoom ((lobby.room game).left id)) := by
    refine withRoom nodup (List.mem_append_left _ live) ?_ ?_ ?_
    · rw [leaves]
      exact keeps.id
    · rw [leaves]
      exact keeps.owner
    · rw [leaves]
      exact keeps.ownerSerial
  cases left with
  | stays guest => exact stays
  | closes owner room kept =>
      subst room
      exact stays.trans (.of_subset (List.filter_subset_self _))

end Inherits

/-- What an effect makes of the roster. -/
theorem Effect.turnover {mayRejoin : Prop} (effect : Effect mayRejoin lobby after) :
    lobby.people.Turnover after.people := by
  cases effect with
  | nothing => exact .stays (.refl _)
  | connect address protocol space positive fresh => exact .registers _ fresh
  | @describe change id describes =>
      refine .changes id (fun user => ?_) fun user flag => ?_
      · rw [User.key, describes.id, describes.serial, User.key]
      · rw [describes.loggedIn, flag]
  | logIn absent => exact .changes _ (fun _ => rfl) fun _ _ => rfl
  | play live plays => exact .stays (plays.agrees User.lasting_badge.offSeat)
  | work member works => exact .stays (.of_eq works.people)
  | @join user game registered loggedIn free live welcome waiting room =>
      exact .stays (Room.agrees_joined User.lasting_badge (lobby.room game) user.id)
  | leave live member left => exact .stays (left.agrees User.lasting_badge)
  | kick live member guest barred left =>
      have agrees := left.agrees User.lasting_badge
      exact .stays agrees
  | depart registered absent => exact .departs registered (.refl _)
  | departMember registered live member left =>
      exact .departs registered (left.agrees User.lasting_badge)

/-- No effect makes a game change hands. -/
theorem Effect.inherits {mayRejoin : Prop} {settings : Settings} {created : Nat}
    (kept : lobby.Kept settings created) (effect : Effect mayRejoin lobby after) :
    lobby.Inherits after := by
  have same {later : Lobby} (games : later.games = lobby.games) : lobby.Inherits later :=
    .of_subset fun _ live => games ▸ live
  cases effect with
  | nothing => exact same rfl
  | connect address protocol space positive fresh => exact same rfl
  | describe id describes => exact same rfl
  | logIn absent => exact same rfl
  | play live plays =>
      have keeps := plays.keeps
      exact .withRoom kept.nodup (List.mem_append_left _ live) keeps.id keeps.owner
        keeps.ownerSerial
  | work member works =>
      have keeps := Game.Keeps.of_works works.game
      exact .withRoom kept.nodup member keeps.id keeps.owner keeps.ownerSerial
  | join registered loggedIn free live welcome waiting room =>
      exact .withRoom kept.nodup (List.mem_append_left _ live) rfl rfl rfl
  | leave live member left => exact .left kept.nodup live left
  | @kick target game kicked after live member guest barred left =>
      have retains := Retains.withRoom lobby
        { lobby.room game with game := { game with kicked := kicked } }
      have barring : lobby.Inherits (lobby.withRoom
          { lobby.room game with game := { game with kicked := kicked } }) :=
        .withRoom kept.nodup (List.mem_append_left _ live) rfl rfl rfl
      exact barring.trans (.left (retains.nodup kept.nodup)
        (List.mem_map.mpr ⟨game, live, if_pos rfl⟩) left)
  | depart registered absent => exact same rfl
  | @departMember user game after registered live member left =>
      have gone : Inherits { lobby with people := lobby.people.depart user } after :=
        .left kept.nodup live left
      exact gone

theorem createGame_agrees (lobby : Lobby) (id : UserId) (name : String) :
    Agrees User.badge lobby.people (lobby.createGame id name).state.people := by
  rcases lobby.createGame_cases id name with
    refused | ⟨user, -, -, -, -, -, ⟨-, state⟩ | ⟨-, makes⟩⟩
  · rw [refused.state]
    exact .refl _
  · rw [state]
    exact .refl _
  · rw [makes.state]
    exact Room.agrees_joined User.lasting_badge
      ((lobby.withFounded user name).room (lobby.founded user name)) user.id

namespace Named

variable {settings : Settings} {created : Nat}

theorem effect {mayRejoin : Prop} (kept : lobby.Kept settings created) (named : lobby.Named)
    (effect : Effect mayRejoin lobby after) : after.Named := by
  refine ⟨effect.turnover.dated kept.users_nodup named.dated, fun game live => ?_⟩
  obtain ⟨earlier, earlierLive, owner, serial⟩ := effect.inherits kept game live
  exact owner ▸ serial ▸
    effect.turnover.known kept.users_nodup (named.owners earlier earlierLive)

/-- The owner of a game that is created is logged in. -/
theorem create (kept : lobby.Kept settings created) (named : lobby.Named) (id : UserId)
    (name : String) : (lobby.createGame id name).state.Named := by
  have agrees := lobby.createGame_agrees id name
  refine ⟨named.dated.of_agrees (agrees.map Badge.key), fun game live => ?_⟩
  refine Roster.Known.remembers ?_ agrees.remembers
  rcases lobby.createGame_cases id name with
    refused | ⟨user, registered, -, loggedIn, -, -, made⟩
  · exact named.owners game (refused.state ▸ live)
  · have founding : ∀ earlier ∈ (lobby.withFounded user name).games,
        lobby.people.Known (earlier.owner, earlier.ownerSerial) := by
      intro earlier there
      rcases List.mem_append.mp there with others | itself
      · exact named.owners earlier (List.mem_of_mem_filter others)
      · rw [List.mem_singleton.mp itself]
        exact ⟨user, List.mem_append_left _ registered, rfl, loggedIn⟩
    rcases made with ⟨-, state⟩ | ⟨-, makes⟩
    · rw [state, kept.neat.founded_self] at live
      exact founding game live
    · have joins : (lobby.withFounded user name).Inherits
          ((lobby.withFounded user name).withRoom (lobby.foundedRoom user name)) :=
        .withRoom (nodup_withFounded user name kept.nodup)
          (List.mem_append_left _ (List.mem_append_right _ (List.mem_singleton.mpr rfl)))
          rfl rfl rfl
      obtain ⟨earlier, there, owner, serial⟩ := joins game (makes.state ▸ live)
      exact owner ▸ serial ▸ founding earlier there

end Named

/-- What is kept of a lobby at all times. -/
theorem invariant_named (settings : Settings) (created : Nat) (mayRejoin : Prop) :
    Invariant mayRejoin fun lobby => lobby.Kept settings created ∧ lobby.Named where
  placed := fun kept => kept.1.placed
  effect := fun kept effect =>
    ⟨(invariant_kept settings created mayRejoin).effect kept.1 effect, kept.2.effect kept.1 effect⟩

/-- What no turnover breaks is kept of the roster. -/
theorem invariant_people {holds : Roster → Prop} (settings : Settings) (created : Nat)
    (mayRejoin : Prop)
    (turns : ∀ people after, (people.present.map (·.id)).Nodup → people.Turnover after →
      holds people → holds after) :
    Invariant mayRejoin fun lobby => lobby.Kept settings created ∧ holds lobby.people where
  placed := fun kept => kept.1.placed
  effect := fun kept effect =>
    ⟨(invariant_kept settings created mayRejoin).effect kept.1 effect,
      turns _ _ kept.1.users_nodup effect.turnover kept.2⟩

theorem named_empty (settings : Settings) : (Lobby.empty settings).Named :=
  ⟨.empty, fun _ member => by cases member⟩

end Lobby

namespace Venue

variable {settings : Settings} {venue : Venue}

/-- Every move keeps of the roster what no turnover breaks. -/
theorem people_step {holds : Roster → Prop}
    (turns : ∀ people after, (people.present.map (·.id)).Nodup → people.Turnover after →
      holds people → holds after)
    (kept : venue.lobby.Kept settings venue.created) (held : holds venue.lobby.people)
    (move : Move) : holds (venue.step move).lobby.people := by
  by_cases creates : move.Creates
  · cases move with
    | create user name =>
        exact turns _ _ kept.users_nodup (.stays (venue.lobby.createGame_agrees user name)) held
    | _ => exact absurd creates id
  · exact (invariant_step (Lobby.invariant_people settings venue.created True turns)
      ⟨kept, held⟩ creates fun _ => trivial).2

theorem named_step (kept : venue.lobby.Kept settings venue.created) (named : venue.lobby.Named)
    (move : Move) : (venue.step move).lobby.Named := by
  by_cases creates : move.Creates
  · cases move with
    | create user name => exact named.create kept user name
    | _ => exact absurd creates id
  · exact (invariant_step (Lobby.invariant_named settings venue.created True) ⟨kept, named⟩
      creates fun _ => trivial).2

end Venue

end Netplay
