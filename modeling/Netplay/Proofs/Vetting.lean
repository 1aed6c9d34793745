/-
Module: Netplay.Proofs.Vetting
Purpose: Whoever is logged in has passed the checks of the login, and so every game
  that has started takes as many actions in a message as the clients of its members
  send.
Main exports:
  User.Fit, Game.Continues, Room.Turn.continues, Lobby.Traces, Lobby.Strokes.traces,
  Lobby.Vetted, Lobby.Errand.inOrder, Lobby.addGameData_divides, Lobby.Screened,
  Relay.screened_course
-/
import Netplay.Proofs.Deeds
import Netplay.Proofs.Errands

namespace Netplay

/-! ## Users -/

/-- What is demanded of a user who is logged in. -/
structure User.Fit (rules : ServerSettings) (user : User) : Prop where
  named : Text.isBlank user.name = false
  visible : ∀ char ∈ user.name.toList, Text.isInvisible char = false
  name : 0 < rules.maxUserName → user.name.length ≤ rules.maxUserName
  emulator : 0 < rules.maxEmulatorName → user.emulator.length ≤ rules.maxEmulatorName
  connection : 1 ≤ user.connectionType.toNat ∧ user.connectionType.toNat ≤ 6
  ping : 0 < rules.maxPing → user.ping ≤ rules.maxPing

/-- Where a login finds no fault, the demands are met. -/
theorem Lobby.fit_of_faultless {rules : ServerSettings} {user : User}
    (faultless : loginFault? rules user = none) : user.Fit rules := by
  unfold loginFault? at faultless
  split at faultless
  · cases faultless
  · rename_i named
    split at faultless
    · cases faultless
    · rename_i short
      split at faultless
      · cases faultless
      · rename_i visible
        split at faultless
        · cases faultless
        · rename_i brief
          split at faultless
          · cases faultless
          · rename_i connection
            split at faultless
            · cases faultless
            · rename_i quick
              refine ⟨Bool.eq_false_iff.mpr named, fun char member => ?_,
                fun limited => Nat.le_of_not_lt fun long => short ⟨limited, long⟩,
                fun limited => Nat.le_of_not_lt fun long => brief ⟨limited, long⟩,
                ⟨?_, ?_⟩, fun limited => UInt32.not_lt.mp fun slow => quick ⟨limited, slow⟩⟩
              · exact Bool.eq_false_iff.mpr fun hidden =>
                  visible (List.any_eq_true.mpr ⟨char, member, hidden⟩)
              · exact UInt8.le_iff_toNat_le.mp
                  (UInt8.not_lt.mp fun less => connection (.inl less))
              · exact UInt8.le_iff_toNat_le.mp
                  (UInt8.not_lt.mp fun more => connection (.inr more))

/-- They are met by what stays of a user. -/
theorem User.Fit.of_card {rules : ServerSettings} {user old : User} (fit : old.Fit rules)
    (same : user.card = old.card) : user.Fit rules := by
  have name : user.name = old.name := (congrArg User.name same :)
  have emulator : user.emulator = old.emulator := (congrArg User.emulator same :)
  have connection : user.connectionType = old.connectionType :=
    (congrArg User.connectionType same :)
  have ping : user.ping = old.ping := (congrArg User.ping same :)
  obtain ⟨named, visible, short, brief, within, quick⟩ := fit
  exact ⟨name ▸ named, name ▸ visible, name ▸ short, emulator ▸ brief, connection ▸ within,
    ping ▸ quick⟩

/-! ## Games -/

namespace Game

/-- The game is being played, or input is merged. -/
def Busy (game : Game) : Prop := game.status ≠ .waiting ∨ game.synched = true

/-- The second game is the first one later on, and no round has been started. -/
structure Continues (game later : Game) : Prop where
  round : later.round = game.round
  actions : later.actionsPerMessage = game.actionsPerMessage
  busy : later.Busy → game.Busy
  going : later.status ≠ .waiting → game.status ≠ .waiting
  members : later.status ≠ .waiting → later.members ⊆ game.members

namespace Continues

variable {game later last : Game}

/-- The status is the same, and merging has not begun. -/
theorem of_status (round : later.round = game.round)
    (actions : later.actionsPerMessage = game.actionsPerMessage)
    (status : later.status = game.status) (synched : later.synched = true → game.synched = true)
    (members : later.members ⊆ game.members) : game.Continues later where
  round := round
  actions := actions
  busy := Or.imp (status ▸ ·) synched
  going := (status ▸ ·)
  members := fun _ => members

theorem refl (game : Game) : game.Continues game :=
  of_status rfl rfl rfl (fun on => on) (List.Subset.refl _)

theorem trans (one : game.Continues later) (two : later.Continues last) :
    game.Continues last where
  round := two.round.trans one.round
  actions := two.actions.trans one.actions
  busy := one.busy ∘ two.busy
  going := one.going ∘ two.going
  members := fun going =>
    List.Subset.trans (two.members going) (one.members (two.going going))

theorem works (works : game.Works later) : game.Continues later := by
  have synched := works.synched
  obtain ⟨_, _, _, _, _, rfl⟩ := works.frame
  exact of_status rfl rfl rfl synched (List.Subset.refl _)

theorem hush (game : Game) (slot : Nat) : game.Continues (game.hush slot) :=
  .works (.of_dims (game.dims_hush slot))

theorem endRound (game : Game) : game.Continues game.endRound := by
  obtain ⟨_, _, frame⟩ := game.endRound_frame
  rw [frame]
  exact of_status rfl rfl rfl (fun on => on) (List.Subset.refl _)

/-- Fewer members. -/
theorem fewer {members : List UserId} (subset : members ⊆ game.members) :
    game.Continues { game with members := members } :=
  of_status rfl rfl rfl (fun on => on) subset

/-- A game that waits again. -/
theorem rest (game : Game) : game.Continues { game with status := .waiting } where
  round := rfl
  actions := rfl
  busy := fun busy => busy.elim (absurd rfl) .inr
  going := absurd rfl
  members := absurd rfl

end Continues

end Game

namespace Room

open Game (Continues)

variable {room after : Room} {deed : Deed}

theorem continues_bench (room : Room) (id : UserId) (slot : Nat) :
    room.game.Continues (room.bench id slot).game := by
  unfold bench
  split
  · exact .hush room.game slot
  · exact ((Continues.hush room.game slot).trans (.endRound _)).trans (.rest _)

theorem continues_left (room : Room) (id : UserId) :
    room.game.Continues (room.left id).game := by
  have without (room : Room) : room.game.Continues (room.without id).game :=
    .fewer (List.filter_subset_self _)
  rcases room.left_cases id with goes | ⟨slot, -, goes⟩
  · rw [goes]
    exact without room
  · rw [goes]
    exact (room.continues_bench id slot).trans (without _)

/-- Whatever is done in a game but to start it. -/
theorem Turn.continues (turn : room.Turn deed after) (running : ∀ user, deed ≠ .start user) :
    room.game.Continues after.game := by
  cases turn with
  | rest => exact .refl _
  | join new waiting space =>
      exact ⟨rfl, rfl, fun busy => busy, fun going => going, fun going => absurd waiting going⟩
  | start waiting someone actions => exact absurd rfl (running _)
  | mark gathering => exact .of_status rfl rfl rfl (fun on => on) (List.Subset.refl _)
  | play gathering all =>
      have going : room.game.status ≠ .waiting := by
        rw [gathering]
        decide
      exact ⟨rfl, rfl, fun _ => .inl going, fun _ => going, fun _ => List.Subset.refl _⟩
  | drop member seat => exact room.continues_bench _ _
  | quit member => exact room.continues_left _
  | bar kicked => exact .of_status rfl rfl rfl (fun on => on) (List.Subset.refl _)
  | close dims off =>
      exact ((Continues.works (.of_dims dims)).trans (.fewer (List.nil_subset _))).trans
        (.endRound _)
  | gap slot => exact .hush room.game slot
  | work isWork chores => exact .works chores.works

end Room

/-! ## Live games -/

/-- Only who starts a game asks for that. -/
theorem Venue.start_of_asks {venue : Venue} {move : Venue.Move} {user : UserId}
    (asked : venue.Asks move (.start user)) : move = .start user := by
  cases move with
  | start owner =>
      cases asked
      rfl
  | login _ | quit _ _ | leave _ =>
      obtain ⟨_, parts | parts⟩ := asked
      · cases parts
      · cases parts
  | kick _ _ =>
      obtain parts | ⟨_, parts | parts⟩ := asked
      · cases parts
      · cases parts
      · cases parts
  | retry _ _ =>
      obtain ⟨_, -, parts⟩ := asked
      cases parts
  | _ => cases asked

namespace Lobby

open Room (Deed)

variable {may : Deed → Prop} {founds : Prop} {leads : Game → Game → Prop}
  {lobby middle after : Lobby} {letters : List Letter}

/-- Every live game of the second lobby has come, by this relation, from a live one of
the first lobby or, where games are created, from one that was just created. -/
def Traces (leads : Game → Game → Prop) (founds : Prop) (lobby after : Lobby) : Prop :=
  ∀ later ∈ after.games, ∃ game,
    (game ∈ lobby.games ∨ founds ∧ game.Blank) ∧ leads game later

/-- What every operation does to the game of its room, a stroke does to live games. -/
theorem Stroke.traces (nodup : (lobby.allGames.map (·.id)).Nodup)
    (refl : ∀ game, leads game game)
    (each : ∀ (room : Room) (deed : Deed), may deed → deed.Fits room →
      leads room.game (room.perform deed).1.game)
    (stroke : Stroke may founds lobby letters after) : Traces leads founds lobby after := by
  intro later live
  have stays (old : later ∈ lobby.games) :
      ∃ game, (game ∈ lobby.games ∨ founds ∧ game.Blank) ∧ leads game later :=
    ⟨later, .inl old, refl later⟩
  cases stroke with
  | aside games closed told => exact stays (games ▸ live)
  | @perform game deed member asked fits =>
      rcases mem_games_withRoom live with ⟨rfl, other, otherLive, same⟩ | ⟨old, -⟩
      · have number := (Room.turn_perform fits).number
        obtain rfl := List.inj_on_of_nodup_map nodup (mem_allGames_of_live otherLive) member
          (same.trans number)
        exact ⟨other, .inl otherLive, each (lobby.room other) deed asked fits⟩
      · exact stays old
  | close _ asked games closed =>
      rw [games] at live
      exact stays (List.mem_filter.mp live).1
  | found user name aim =>
      rcases List.mem_append.mp live with other | new
      · exact stays (List.mem_filter.mp other).1
      · rw [List.mem_singleton.mp new]
        exact ⟨_, .inr ⟨aim, _, _, _, _, rfl⟩, refl _⟩

theorem Strokes.traces (nodup : (lobby.allGames.map (·.id)).Nodup)
    (refl : ∀ game, leads game game)
    (trans : ∀ {one two three}, leads one two → leads two three → leads one three)
    (each : ∀ (room : Room) (deed : Deed), may deed → deed.Fits room →
      leads room.game (room.perform deed).1.game)
    (row : Strokes may founds lobby letters after) : Traces leads founds lobby after := by
  induction row with
  | done lobby => exact fun game live => ⟨game, .inl live, refl game⟩
  | more stroke _ inductionHypothesis =>
      intro later live
      obtain ⟨game, old | blank, reached⟩ := inductionHypothesis (stroke.nodup nodup) later live
      · obtain ⟨source, place, led⟩ := stroke.traces nodup refl each game old
        exact ⟨source, place, trans led reached⟩
      · exact ⟨game, .inr blank, reached⟩

end Lobby

/-! ## Games that have started -/

namespace Game

variable {game later : Game} {people : Roster}

/-- What is played or merged has been started, and once that has happened a message
holds one to six actions. -/
structure Tuned (game : Game) : Prop where
  begun : game.Busy → 0 < game.round
  actions : 0 < game.round → 1 ≤ game.actionsPerMessage ∧ game.actionsPerMessage ≤ 6

theorem Continues.tuned (continues : game.Continues later) (tuned : game.Tuned) : later.Tuned where
  begun := fun busy => continues.round ▸ tuned.begun (continues.busy busy)
  actions := fun begun => continues.actions ▸ tuned.actions (continues.round ▸ begun)

/-- A game that was just created waits for players. -/
theorem Blank.idle (blank : game.Blank) :
    game.status = .waiting ∧ game.synched = false ∧ game.round = 0 := by
  obtain ⟨_, _, _, _, rfl⟩ := blank
  exact ⟨rfl, rfl, rfl⟩

theorem Blank.tuned (blank : game.Blank) : game.Tuned := by
  obtain ⟨waiting, off, zero⟩ := blank.idle
  refine ⟨fun busy => ?_, fun begun => absurd zero (Nat.ne_of_gt begun)⟩
  rcases busy with going | on
  · exact absurd waiting going
  · rw [off] at on
    cases on

/-- The members are registered and logged in, and their clients pack as many actions
into a message as the game takes. -/
structure Suits (game : Game) (people : Roster) : Prop where
  here : ∀ member ∈ game.members, ∃ user ∈ people.present, user.id = member ∧
    user.loggedIn = true
  alike : ∀ user ∈ people.present, user.id ∈ game.members →
    user.connectionType.toNat = game.actionsPerMessage

theorem Suits.continues (suits : game.Suits people) (continues : game.Continues later)
    (going : later.status ≠ .waiting) : later.Suits people where
  here := fun member among => suits.here member (continues.members going among)
  alike := fun user registered among =>
    (suits.alike user registered (continues.members going among)).trans continues.actions.symm

end Game

namespace Lobby

open Room (Deed)

variable {settings : Settings} {created : Nat} {may : Deed → Prop} {founds : Prop}
  {lobby after : Lobby} {letters : List Letter} {game : Game} {move : Venue.Move}

/-- Whoever is logged in has passed the checks, and games that have started are played
with what their members send. -/
structure Vetted (lobby : Lobby) : Prop where
  users : ∀ user ∈ lobby.people.present, user.loggedIn = true → user.Fit lobby.server
  tuned : ∀ game ∈ lobby.allGames, game.Tuned
  suits : ∀ game ∈ lobby.games, game.status ≠ .waiting → game.Suits lobby.people

/-- Games are in order, as seen by the users of the lobby before. -/
structure Carries (lobby after : Lobby) : Prop where
  tuned : ∀ game ∈ after.allGames, game.Tuned
  suits : ∀ game ∈ after.games, game.status ≠ .waiting → game.Suits lobby.people

theorem Vetted.carries (vetted : lobby.Vetted) : lobby.Carries lobby :=
  ⟨vetted.tuned, vetted.suits⟩

/-- That is so where no round is started. -/
theorem carries_of_strokes (nodup : (lobby.allGames.map (·.id)).Nodup) (vetted : lobby.Vetted)
    (row : Strokes may founds lobby letters after)
    (running : ∀ deed, may deed → ∀ user, deed ≠ .start user) : lobby.Carries after := by
  have each (room : Room) (deed : Deed) (asked : may deed) (fits : deed.Fits room) :
      room.game.Continues (room.perform deed).1.game :=
    (Room.turn_perform fits).continues (running deed asked)
  refine ⟨fun later member => ?_, fun later live going => ?_⟩
  · obtain ⟨game, old | ⟨-, blank⟩, continues⟩ :=
      row.follows Game.Continues.refl Game.Continues.trans each later member
    · exact continues.tuned (vetted.tuned game old)
    · exact continues.tuned blank.tuned
  · obtain ⟨game, old | ⟨-, blank⟩, continues⟩ :=
      row.traces nodup Game.Continues.refl Game.Continues.trans each later live
    · exact (vetted.suits game old (continues.going going)).continues continues going
    · exact absurd blank.idle.1 (continues.going going)

/-- The user found with its game is logged in. -/
theorem loggedIn_of_player? {id : UserId} {user : User}
    (found : lobby.player? id = .ok (user, game)) : user.loggedIn = true := by
  unfold player? at found
  split at found
  · cases found
  · rename_i person loggedIn
    split at found
    · cases found
    · cases found
      exact (loggedIn?_eq_ok loggedIn).2.2

/-- The round that is started suits its players. -/
theorem carries_startGame (kept : lobby.Kept settings created) (vetted : lobby.Vetted)
    (id : UserId) : lobby.Carries (lobby.startGame id).state := by
  unfold startGame
  split
  · exact vetted.carries
  · rename_i user game player
    have live := player?_eq_ok player
    obtain ⟨registered, -⟩ := registered_of_player? player
    rw [(playAndTell_eq ..).1]
    rcases (lobby.room game).start_outcomes id with
      refused | ⟨owner, -, -, alike, makes⟩
    · rw [(lobby.play_refused refused).state,
        kept.neat.withRoom_self (mem_allGames_of_live live)]
      exact vetted.carries
    · rw [(lobby.play_makes makes).state]
      have keeps : game.Keeps game.endRound := .endRound game
      have person : lobby.people.person game.owner = user :=
        owner ▸ (person_of_player? player).1
      have bounds := (vetted.users user registered (loggedIn_of_player? player)).connection
      have wanted : ((lobby.room game).people.person (lobby.room game).game.owner) = user := person
      simp only [wanted] at alike ⊢
      refine ⟨fun later member => ?_, fun later member going => ?_⟩
      · rcases mem_allGames_withRoom member with rfl | old
        · exact ⟨fun _ => Nat.succ_pos _, fun _ => bounds⟩
        · exact vetted.tuned later old
      · rcases mem_games_withRoom member with ⟨rfl, -⟩ | ⟨old, -⟩
        · refine ⟨fun member among => ?_, fun other present among => ?_⟩
          · exact kept.registered live (keeps.members ▸ among)
          · have same := alike other.id (keeps.members ▸ among)
            have itself : (lobby.room game).people.person other.id = other :=
              lobby.people.person_of_mem kept.users_nodup present
            rw [itself] at same
            exact congrArg UInt8.toNat same
        · exact vetted.suits later old going

/-- Nobody who plays is made another. -/
theorem Carries.suits_after (carries : lobby.Carries after)
    (nodup : (lobby.people.present.map (·.id)).Nodup)
    (origins : ∀ user ∈ after.people.present, lobby.Origin move user) (live : game ∈ after.games)
    (going : game.status ≠ .waiting)
    (here : ∀ member ∈ game.members, ∃ user ∈ after.people.present, user.id = member ∧
      user.loggedIn = true) : game.Suits after.people := by
  have suits := carries.suits game live going
  refine ⟨here, fun user registered among => ?_⟩
  obtain ⟨old, present, number, flag⟩ := suits.here user.id among
  have itself {other : User} (there : other ∈ lobby.people.present) (same : other.id = user.id) :
      other = old := List.inj_on_of_nodup_map nodup there present (same.trans number.symm)
  cases origins user registered with
  | @stayed other there same =>
      obtain rfl := itself there (User.lasting_id.of_card same).symm
      have type : user.connectionType = other.connectionType :=
        (congrArg User.connectionType same :)
      exact type ▸ suits.alike other there (number ▸ among)
  | outside out nobody =>
      rw [nobody old present number] at flag
      cases flag
  | @admitted other there out logs faultless alone accepted same =>
      obtain rfl := itself there (User.lasting_id.of_card same).symm
      rw [out] at flag
      cases flag

/-- So users who have been vetted stay so. -/
theorem Carries.vetted (carries : lobby.Carries after) (kept : lobby.Kept settings created)
    {later : Nat} (still : after.Kept settings later) (vetted : lobby.Vetted)
    (origins : ∀ user ∈ after.people.present, lobby.Origin move user) : after.Vetted := by
  have server : after.server = lobby.server := still.server.trans kept.server.symm
  refine ⟨fun user registered flag => ?_, carries.tuned, fun game live going =>
    carries.suits_after kept.users_nodup origins live going fun member among =>
      still.registered live among⟩
  rw [server]
  cases origins user registered with
  | @stayed old there same =>
      have before : old.loggedIn = user.loggedIn := (congrArg User.loggedIn same.symm :)
      exact (vetted.users old there (before.trans flag)).of_card same
  | outside out nobody =>
      rw [out] at flag
      cases flag
  | @admitted old there out logs faultless alone accepted same =>
      obtain ⟨named, visible, name, emulator, connection, ping⟩ := fit_of_faultless faultless
      have welcome : old.logIn.Fit lobby.server :=
        ⟨named, visible, name, emulator, connection, ping⟩
      exact welcome.of_card same

/-- Where those come from who are registered after an errand. -/
theorem Errand.origins (errand : lobby.Errand after)
    (nodup : (lobby.people.present.map (·.id)).Nodup) :
    ∃ move, ∀ user ∈ after.people.present, lobby.Origin move user := by
  cases errand with
  | move now ticket move neat =>
      exact ⟨move, fun user registered =>
        @Venue.origin_step ⟨lobby, now, ticket, 0⟩ move user nodup neat registered⟩
  | @retry game parked member waits now =>
      have people : (lobby.withRoom (((lobby.room game).unpark parked.merge.ticket).resume now
          parked).1).people = lobby.people :=
        (Room.works_retry now parked.merge.ticket parked).people
      exact ⟨.pass 0, fun user registered => .stayed (people ▸ registered) rfl⟩

/-- An errand leaves games in order. -/
theorem Errand.carries (errand : lobby.Errand after) (kept : lobby.Kept settings created)
    (vetted : lobby.Vetted) : lobby.Carries after := by
  cases errand with
  | move now ticket move neat =>
      by_cases starts : ∃ user, move = .start user
      · obtain ⟨user, rfl⟩ := starts
        exact carries_startGame kept vetted user
      · have row := Venue.strokes_outcome ⟨lobby, now, ticket, 0⟩ move
        rw [Venue.step_lobby]
        refine carries_of_strokes kept.nodup vetted row fun deed asked user same => ?_
        exact starts ⟨user, Venue.start_of_asks (same ▸ asked)⟩
  | @retry game parked member waits now =>
      have performed : Stroke (fun deed => deed = .retry now parked) False lobby _ _ :=
        .perform member rfl waits
      refine carries_of_strokes kept.nodup vetted (.one performed) fun deed asked user same => ?_
      rw [asked] at same
      cases same

/-- The books are in order, and everyone has been vetted. -/
def InOrder (settings : Settings) (lobby : Lobby) : Prop :=
  (∃ created, lobby.Kept settings created) ∧ lobby.Vetted

theorem Errand.inOrder (errand : lobby.Errand after) (before : lobby.InOrder settings) :
    after.InOrder settings := by
  obtain ⟨⟨created, kept⟩, vetted⟩ := before
  obtain ⟨later, still⟩ := errand.kept ⟨created, kept⟩
  obtain ⟨move, origins⟩ := errand.origins kept.users_nodup
  exact ⟨⟨later, still⟩, (errand.carries kept vetted).vetted kept still vetted origins⟩

theorem inOrder_empty (settings : Settings) : (Lobby.empty settings).InOrder settings :=
  ⟨⟨0, kept_empty settings⟩, fun _ member => (by cases member), fun _ member => (by cases member),
    fun _ member => by cases member⟩

end Lobby

/-! ## Input -/

/-- Whatever comes of a merge, it is not refused for want of actions. -/
theorem Room.collect_divides (room : Room) (now : Nat) (merge : Merge) (remaining : Nat) :
    (room.collect now merge remaining).2.2 ≠
      .finished (.error (.dataRejected .noActions)) := by
  induction remaining generalizing room merge with
  | zero =>
      unfold collect
      split
      · simp
      · simp
  | succ remaining inductionHypothesis =>
      unfold collect
      split
      · simp
      · split
        · simp
        · split
          · exact inductionHypothesis _ _
          · simp
          · simp

namespace Lobby

variable {settings : Settings} {lobby : Lobby} {id : UserId}

/-- Nobody's input is refused for want of actions before its game is found. -/
theorem player?_divides {refusal : Refusal} (refused : lobby.player? id = .error refusal) :
    refusal ≠ .dataRejected .noActions := by
  unfold player? loggedIn? gameOf? at refused
  rintro rfl
  split at refused
  · rename_i failed
    split at failed
    · cases failed
      cases refused
    · split at failed
      · cases failed
      · cases failed
        cases refused
  · split at refused
    · rename_i failed
      split at failed
      · cases failed
        cases refused
      · split at failed
        · cases failed
          cases refused
        · cases failed
    · cases refused

/-- Nor is it where games that merge are tuned. -/
theorem addGameData_divides (tuned : ∀ game ∈ lobby.games, game.Tuned) (now ticket : Nat)
    (id : UserId) (data : Bytes) :
    (lobby.addGameData now ticket id data).2.2 ≠
      .finished (.error (.dataRejected .noActions)) := by
  unfold addGameData
  split
  · rename_i refusal refused
    intro same
    injection same with same
    injection same with same
    exact player?_divides refused same
  · rename_i user game player
    have tuned := tuned game (player?_eq_ok player)
    unfold Room.addData
    simp only
    split
    · simp
    · rename_i on
      split
      · simp
      · split
        · rename_i none
          have merging : (lobby.room game).game.synched = true := by simpa using on
          have begun := tuned.begun (.inr merging)
          have some := (tuned.actions begun).1
          exact absurd none (Nat.ne_of_gt some)
        · split
          · simp
          · exact Room.collect_divides _ _ _ _

end Lobby

/-! ## Relays -/

/-- Only users who have been vetted are logged in.  So a game that has started takes one to
six actions in a message, and while it is played as many as the clients of its members
send; no game merges that has not started; and no input is refused for want of actions. -/
structure Lobby.Screened (settings : Settings) (lobby : Lobby) : Prop where
  users : ∀ user ∈ lobby.people.present, user.loggedIn = true → user.Fit settings.server
  started : ∀ game ∈ lobby.allGames, 0 < game.round →
    1 ≤ game.actionsPerMessage ∧ game.actionsPerMessage ≤ 6
  played : ∀ game ∈ lobby.games, game.status ≠ .waiting → 0 < game.round ∧
    ∀ member ∈ game.members, ∃ user ∈ lobby.people.present, user.id = member ∧
      user.loggedIn = true ∧ user.connectionType.toNat = game.actionsPerMessage
  merging : ∀ game ∈ lobby.allGames, game.synched = true → 0 < game.round
  divides : ∀ now ticket id data, (lobby.addGameData now ticket id data).2.2 ≠
    .finished (.error (.dataRejected .noActions))

theorem Lobby.InOrder.screened {settings : Settings} {lobby : Lobby}
    (inOrder : lobby.InOrder settings) : lobby.Screened settings := by
  obtain ⟨⟨created, kept⟩, vetted⟩ := inOrder
  refine ⟨kept.server ▸ vetted.users, fun game member => (vetted.tuned game member).actions,
    fun game live going => ?_, fun game member on => (vetted.tuned game member).begun (.inr on),
    Lobby.addGameData_divides fun game live => vetted.tuned game (Lobby.mem_allGames_of_live live)⟩
  have tuned := vetted.tuned game (Lobby.mem_allGames_of_live live)
  have suits := vetted.suits game live going
  refine ⟨tuned.begun (.inl going), fun member among => ?_⟩
  obtain ⟨user, registered, rfl, flag⟩ := suits.here member among
  exact ⟨user, registered, rfl, flag, suits.alike user registered among⟩

/-- Whatever happens at a relay, only users who have been vetted are logged in, and games
that have started are played with what their members send. -/
theorem Relay.screened_course (settings : Settings) (moves : List Relay.Move) :
    ((Relay.opened settings).course moves).lobby.Screened settings :=
  ((Relay.errands_course (Relay.opened settings) moves).keeps
    (fun errand => errand.inOrder) (Lobby.inOrder_empty settings)).screened

end Netplay
