/-
Module: Netplay.Proofs.Founding
Purpose: A game is created whole or not at all, where games have room for
  anybody.
Main exports:
  Lobby.MayFound, Lobby.Founds, Lobby.createGame_barred, Lobby.createGame_stillborn,
  Lobby.createGame_whole, Venue.created_whole, Venue.created_stillborn
-/
import Netplay.Proofs.Refusals
import Netplay.Settings.File

namespace Netplay

namespace Lobby

variable {lobby : Lobby} {id : UserId} {user : User} {name : String}

/-! ## Who may create a game -/

/-- A logged-in user that is in no game may create one, as long as there are
fewer than the server allows. -/
structure MayFound (lobby : Lobby) (id : UserId) (user : User) : Prop where
  known : lobby.loggedIn? id = .ok user
  free : user.game = none
  more : 0 < lobby.server.maxGames → lobby.games.length < lobby.server.maxGames

/-- Anybody else is refused, and nothing happens. -/
theorem createGame_barred (barred : ∀ user, ¬ lobby.MayFound id user) (name : String) :
    ∃ refusal, lobby.createGame id name = .refuse lobby refusal := by
  unfold createGame
  split
  · exact ⟨_, rfl⟩
  · rename_i user known
    split
    · exact ⟨_, rfl⟩
    · rename_i free
      split
      · exact ⟨_, rfl⟩
      · rename_i more
        exact absurd ⟨known, Option.not_isSome_iff_eq_none.mp free,
          fun limited => Nat.lt_of_not_le fun full => more ⟨limited, full⟩⟩ (barred user)

/-- What everyone is told of a game that is about to be joined by its owner. -/
def foundingNews (lobby : Lobby) (user : User) (name : String) : List Letter :=
  lobby.broadcast (.gameCreated ((lobby.founded user name).summary lobby.people))

/-- The owner joins the game that it has created. -/
def settleIn (lobby : Lobby) (user : User) (name : String) : Step Lobby UInt8 :=
  let created := lobby.withFounded user name
  created.playAndTell ((created.room (lobby.founded user name)).join user.id) fun _ => true

/-- The game is there, and everyone knows, before the owner joins it. -/
theorem createGame_eq (may : lobby.MayFound id user) (name : String) :
    lobby.createGame id name =
      ⟨(lobby.settleIn user name).state,
        lobby.foundingNews user name ++ (lobby.settleIn user name).letters,
        (lobby.settleIn user name).result.map fun _ => (lobby.founded user name).id⟩ := by
  obtain ⟨known, free, more⟩ := may
  obtain ⟨-, rfl, -⟩ := loggedIn?_eq_ok known
  have space : ¬ (0 < lobby.server.maxGames ∧ lobby.server.maxGames ≤ lobby.games.length) :=
    fun ⟨limited, full⟩ => Nat.not_le.mpr (more limited) full
  rw [createGame, known]
  simp only
  rw [if_neg (by rw [free]; decide), if_neg space]
  rfl

/-! ## The two outcomes -/

/-- What the creation of a game comes to: everyone has heard of it, it is live
with its owner as the only member, and the owner's entry names it.  Nobody else
is touched. -/
structure Founds (lobby : Lobby) (user : User) (name : String) (step : Step Lobby GameId) :
    Prop where
  result : step.result = .ok (lobby.founded user name).id
  games : step.state.games =
    lobby.games.filter (·.id ≠ (lobby.founded user name).id) ++
      [{ lobby.founded user name with members := [user.id] }]
  people : step.state.people =
    lobby.people.update user.id (·.enterGame (lobby.founded user name).id 1)
  told : ∀ letter ∈ lobby.foundingNews user name, letter ∈ step.letters

/-- The live games once the owner has joined the new one. -/
theorem games_founded (lobby : Lobby) (user : User) (name : String) :
    ((lobby.withFounded user name).withRoom (lobby.foundedRoom user name)).games =
      lobby.games.filter (·.id ≠ (lobby.founded user name).id) ++
        [{ lobby.founded user name with members := [user.id] }] := by
  have number : (lobby.foundedRoom user name).game.id = (lobby.founded user name).id := rfl
  change (lobby.games.filter (·.id ≠ (lobby.founded user name).id) ++
    [lobby.founded user name]).map _ = _
  rw [List.map_append, List.map_singleton, number, if_pos rfl]
  congr 1
  refine (List.map_congr_left fun other member => ?_).trans (List.map_id _)
  exact if_neg (of_decide_eq_true (List.mem_filter.mp member).2)

/-- Where games have room for anybody, the owner joins. -/
theorem createGame_whole (may : lobby.MayFound id user)
    (places : 0 < lobby.gameRules.maxPlayers.toNat) (name : String) :
    lobby.Founds user name (lobby.createGame id name) := by
  have joins : (((lobby.withFounded user name).room (lobby.founded user name)).join
      user.id).Makes (lobby.foundedRoom user name) := by
    rcases ((lobby.withFounded user name).room (lobby.founded user name)).join_cases
        user.id with ⟨-, member | barred | busy | full⟩ | ⟨-, -, -, -, makes⟩
    · cases member
    · cases barred
    · exact absurd rfl busy
    · exact absurd full (Nat.not_le.mpr places)
    · exact makes
  have plays := (lobby.withFounded user name).play_makes joins
  obtain ⟨state, result⟩ := (lobby.withFounded user name).playAndTell_eq
    (((lobby.withFounded user name).room (lobby.founded user name)).join user.id) fun _ => true
  obtain ⟨value, done⟩ := plays.result
  rw [createGame_eq may]
  refine ⟨congrArg (Except.map _) (result.trans done), ?_, ?_, ?_⟩
  · exact (congrArg (·.games) (state.trans plays.state)).trans (lobby.games_founded user name)
  · exact congrArg (·.people) (state.trans plays.state)
  · exact fun letter told => List.mem_append_left _ told

/-- Where they have none, the owner is refused, and the game, of which everyone
has heard, stays without a member. -/
theorem createGame_stillborn (neat : lobby.Neat) (may : lobby.MayFound id user)
    (places : lobby.gameRules.maxPlayers.toNat = 0) (name : String) :
    lobby.createGame id name =
      ⟨lobby.withFounded user name, lobby.foundingNews user name,
        .error (.gameFull (lobby.founded user name).id)⟩ := by
  have refused : ((lobby.withFounded user name).room (lobby.founded user name)).join user.id =
      .refuse ((lobby.withFounded user name).room (lobby.founded user name))
        (.gameFull (lobby.founded user name).id) := by
    rw [Room.join]
    simp only
    rw [if_neg (by exact List.not_mem_nil), if_neg (by exact List.not_mem_nil),
      if_neg (by exact fun busy => busy rfl), if_pos (by exact Nat.le_of_eq places)]
    rfl
  rw [createGame_eq may, settleIn, refused]
  simp only [playAndTell, play, Step.refuse, neat.founded_self, List.append_nil]
  rfl

end Lobby

/-! ## Runs -/

namespace Venue

/-- Whatever has happened at a venue where games have room for anybody at all,
the creation of a game is all or nothing.  If it is refused, users, games and
counters are exactly as they were and nobody is told anything; it is refused
only to those who may not create a game; and if it is not, the game is there
and has its owner. -/
theorem created_whole (settings : Settings) (places : 1 ≤ settings.game.maxPlayers.toNat)
    (moves : List Move) (id : UserId) (name : String) :
    let venue := (opened settings).run moves
    let step := venue.lobby.createGame id name
    (∀ refusal, step.result = .error refusal →
        venue.step (.create id name) = venue ∧ step.letters = [] ∧
          ∀ user, ¬ venue.lobby.MayFound id user) ∧
      ∀ number, step.result = .ok number →
        ∃ user, venue.lobby.MayFound id user ∧ venue.lobby.Founds user name step := by
  intro venue step
  have rules : venue.lobby.gameRules = settings.game := (kept_opened settings moves).rules
  by_cases may : ∃ user, venue.lobby.MayFound id user
  · obtain ⟨user, may⟩ := may
    have founds : venue.lobby.Founds user name step :=
      Lobby.createGame_whole may (by rw [rules]; exact places) name
    refine ⟨fun refusal refused => ?_, fun number _ => ⟨user, may, founds⟩⟩
    rw [founds.result] at refused
    cases refused
  · have barred : ∀ user, ¬ venue.lobby.MayFound id user := fun user held => may ⟨user, held⟩
    obtain ⟨refusal, refused⟩ := Lobby.createGame_barred barred name
    have nothing : step = .refuse venue.lobby refusal := refused
    refine ⟨fun _ _ => ⟨?_, congrArg (·.letters) nothing, barred⟩, fun number done => ?_⟩
    · rw [Venue.step, Venue.create, refused]
      exact congrArg (Venue.mk venue.lobby venue.now venue.nextTicket) (if_pos rfl)
    · rw [nothing] at done
      cases done

/-- Ada, who has a game of her own, creates another one. -/
def secondGame : List Move := arrival 1 "Ada" ++ arrival 2 "Bo" ++ [.create 1 "solo"]

/-- She is refused and nothing happens, while Bo gets a game. -/
theorem created_whole_secondGame :
    1 ≤ ({} : Settings).game.maxPlayers.toNat ∧
      (((opened {}).run secondGame).lobby.createGame 1 "duo").result =
        .error (.alreadyInGame 1) ∧
      ((opened {}).run secondGame).step (.create 1 "duo") = (opened {}).run secondGame ∧
      (((opened {}).run secondGame).lobby.createGame 2 "duel").result = .ok 2 ∧
      ∃ user, ((opened {}).run secondGame).lobby.Founds user "duel"
        (((opened {}).run secondGame).lobby.createGame 2 "duel") := by
  have places : 1 ≤ ({} : Settings).game.maxPlayers.toNat := by decide
  have refused : (((opened {}).run secondGame).lobby.createGame 1 "duo").result =
      .error (.alreadyInGame 1) := by decide +kernel
  have done : (((opened {}).run secondGame).lobby.createGame 2 "duel").result = .ok 2 := by
    decide +kernel
  obtain ⟨user, -, founds⟩ := (created_whole {} places secondGame 2 "duel").2 2 done
  exact ⟨places, refused, ((created_whole {} places secondGame 1 "duo").1 _ refused).1, done,
    user, founds⟩

/-- Where games have room for nobody, whoever may create one leaves a game
without members behind, which everyone has heard of, and is refused. -/
theorem created_stillborn (settings : Settings) (places : settings.game.maxPlayers = 0)
    (moves : List Move) {id : UserId} {user : User}
    (may : ((opened settings).run moves).lobby.MayFound id user) (name : String) :
    let lobby := ((opened settings).run moves).lobby
    let step := lobby.createGame id name
    step.result = .error (.gameFull (lobby.founded user name).id) ∧
      step.letters = lobby.foundingNews user name ∧
      lobby.founded user name ∈ step.state.games ∧ step.state.people = lobby.people := by
  have kept := kept_opened settings moves
  simp only
  rw [Lobby.createGame_stillborn kept.neat may (by rw [kept.rules, places]; rfl) name]
  exact ⟨rfl, rfl, List.mem_append_right _ (List.mem_singleton.mpr rfl), rfl⟩

/-- Settings that a file may write: one game at most, with room for nobody. -/
def roomless : Settings := { server := { maxGames := 1 }, game := { maxPlayers := 0 } }

/-- Under these settings, Ada creates a game.  She is refused since it is full;
but it has been announced to her, it stays without members, and from then on
there are too many games. -/
theorem created_ownerless :
    Settings.ofFile? "[server]\nmax_games = 1\n\n[game]\nmax_players = 0\n".toUTF8.toList =
        some roomless ∧
      let lobby := ((opened roomless).run (arrival 1 "Ada")).lobby
      let step := lobby.createGame 1 "solo"
      step.result = .error (.gameFull 1) ∧ lobby.games = [] ∧
        step.state.games.map (fun game => (game.id, game.members)) = [(1, [])] ∧
        (∃ letter ∈ step.letters, letter.recipient = 1 ∧
          ∃ game, letter.event = .server (.gameCreated game)) ∧
        (step.state.createGame 1 "solo").result = .error (.denied .tooManyGames) := by
  refine ⟨by decide +kernel, by decide +kernel, by decide +kernel, by decide +kernel, ?_,
    by decide +kernel⟩
  exact ⟨⟨1, .server (.gameCreated _)⟩, List.mem_cons_self, rfl, _, rfl⟩

end Venue

end Netplay
