/-
Module: Netplay.Proofs.Observers
Purpose: Whoever is logged in hears of every game that is created and of everyone who
  comes, goes or is sent away.
Main exports:
  Homely, Lobby.informs_kick, Lobby.informs_createGame, Lobby.informs_quit,
  Lobby.informs_quitAll, Lobby.informs_login, Lobby.informs_connect,
  Lobby.view_introduce, Lobby.view_measure
-/
import Mathlib.Order.BooleanAlgebra.Set
import Netplay.Proofs.LobbyView
import Netplay.Proofs.Refusals

namespace Netplay

open Roster (Agrees)

namespace Lobby

variable {lobby after : Lobby} {game : Game} {observer id : UserId} {α : Type}
  {settings : Settings} {created : Nat}

/-! ## Merges -/

/-- Work on merges does not show. -/
theorem view_works {room : Room} (nodup : (lobby.allGames.map (·.id)).Nodup)
    (member : game ∈ lobby.allGames) (works : (lobby.room game).Works room) :
    (lobby.withRoom room).view = lobby.view := by
  have agrees : Agrees User.badge lobby.people room.people := .of_eq works.people
  have keeps := Game.Keeps.of_works works.game
  have status : room.game.status = game.status := by
    obtain ⟨_, _, _, _, _, frame⟩ := works.game.frame
    rw [frame]
    rfl
  exact view_withRoom_same nodup member ⟨keeps.id, agrees⟩ (summary_keeps keeps status agrees)

theorem informs_droppedPacket (nodup : (lobby.allGames.map (·.id)).Nodup) (id : UserId) :
    lobby.view.follow (heard observer (lobby.droppedPacket id).2) =
      (lobby.droppedPacket id).1.view := by
  unfold droppedPacket
  split
  · rfl
  · split
    · rfl
    · rename_i game found
      have works : (lobby.room game).Works ((lobby.room game).droppedPacket id).1 := by
        rcases (lobby.room game).droppedPacket_cases id with same | ⟨slot, hushed⟩
        · rw [same]
          exact .refl _
        · rw [hushed]
          exact .of_game (.of_dims (game.dims_hush slot))
      exact (congrArg lobby.view.follow (heard_tells (Room.tells_droppedPacket _ id))).trans
        (view_works nodup (List.mem_append_left _ (gameOf?_eq_ok found).2) works).symm

theorem informs_addGameData (nodup : (lobby.allGames.map (·.id)).Nodup) (now ticket : Nat)
    (id : UserId) (data : Bytes) :
    lobby.view.follow (heard observer (lobby.addGameData now ticket id data).2.1) =
      (lobby.addGameData now ticket id data).1.view := by
  unfold addGameData
  split
  · rfl
  · rename_i user game player
    exact (congrArg lobby.view.follow
      (heard_tells (Room.tells_addData _ id now ticket data))).trans
      (view_works nodup (List.mem_append_left _ (player?_eq_ok player))
        (Room.works_addData ..)).symm

/-! ## Games -/

theorem informs_kick (kept : lobby.Kept settings created) (hears : lobby.Hears observer)
    (id target : UserId) : lobby.Informs observer (lobby.kick id target) := by
  unfold kick
  split
  · exact informs_refuse observer lobby _
  · rename_i user game player
    have live := player?_eq_ok player
    have tells := (lobby.room game).tells_kick id target
    rcases (lobby.room game).kick_cases id target with
      refused | ⟨kicked, -, -, -, -, makes⟩
    · obtain ⟨refusal, failed⟩ := refused.result
      simp only [play, failed]
      exact informs_play tells (view_unplayed kept.nodup live refused.state)
    · obtain ⟨value, done⟩ := makes.result
      have barred : (lobby.withRoom { lobby.room game with
          game := { game with kicked := kicked } }).view = lobby.view :=
        view_withRoom_same kept.nodup (List.mem_append_left _ live) ⟨rfl, .refl _⟩ rfl
      have still : (lobby.withRoom { lobby.room game with
          game := { game with kicked := kicked } }).Hears observer := hears.of_audience rfl
      have leaves := informs_leave still ((Retains.withRoom lobby _).nodup kept.nodup)
        (lobby.people.person target)
      rw [Informs, barred] at leaves
      simp only [play, done, makes.state]
      exact leaves

/-- A game that is created is found, and the others are as before. -/
theorem find_withFounded (lobby : Lobby) (user : User) (name : String) (id : GameId) :
    (lobby.withFounded user name).game? id =
      if id = (lobby.founded user name).id then some (lobby.founded user name)
      else lobby.game? id := by
  change ((lobby.games.filter (·.id ≠ (lobby.founded user name).id)) ++
    [lobby.founded user name]).find? (·.id = id) = _
  rw [List.find?_append]
  by_cases same : id = (lobby.founded user name).id
  · have absent : (lobby.games.filter (·.id ≠ (lobby.founded user name).id)).find?
        (·.id = id) = none := by
      rw [List.find?_eq_none]
      intro other member
      simpa [same] using (List.mem_filter.mp member).2
    rw [absent, if_pos same, Option.none_or]
    simp [same]
  · have differs : (lobby.founded user name).id ≠ id := fun other => same other.symm
    rw [if_neg same, find?_others lobby.games same, game?]
    simp [differs]

theorem view_withFounded (lobby : Lobby) (user : User) (name : String) :
    (lobby.withFounded user name).view =
      lobby.view.learn (.gameCreated ((lobby.founded user name).summary lobby.people)) := by
  refine View.ext rfl (funext fun id => ?_)
  change ((lobby.withFounded user name).game? id).map (·.summary lobby.people) =
    Function.update lobby.view.game (lobby.founded user name).id _ id
  rw [find_withFounded]
  split
  · rename_i same
    rw [same, Function.update_self]
    rfl
  · rename_i differs
    rw [Function.update_of_ne differs]
    rfl

theorem informs_createGame (hears : lobby.Hears observer)
    (nodup : (lobby.allGames.map (·.id)).Nodup) (id : UserId) (name : String) :
    lobby.Informs observer (lobby.createGame id name) := by
  unfold createGame
  split
  · exact informs_refuse observer lobby _
  · split
    · exact informs_refuse observer lobby _
    · split
      · exact informs_refuse observer lobby _
      · rename_i user found free more
        have there : lobby.founded user name ∈ (lobby.withFounded user name).games :=
          List.mem_append_right _ (List.mem_singleton.mpr rfl)
        have still : (lobby.withFounded user name).Hears observer := hears.of_audience rfl
        have joins := informs_announced still (nodup_withFounded user name nodup) there
          (Room.tells_join ((lobby.withFounded user name).room (lobby.founded user name)) id)
          (Room.resembles_join _ id) (Room.inert_join _ id).keeps
        rw [Informs, view_withFounded] at joins
        have told := heard_broadcast still
          (.gameCreated ((lobby.founded user name).summary lobby.people))
        have both := congrArg (· ++ heard observer ((lobby.withFounded user name).playAndTell
          (((lobby.withFounded user name).room (lobby.founded user name)).join id)
          fun _ => true).letters) told
        exact (congrArg lobby.view.follow (heard_append.trans both)).trans joins

end Lobby

/-! ## Quitting -/

/-- A departure may be learnt before announcements about games or after them. -/
theorem View.follow_learn_quit {events : List ServerEvent}
    (home : ∀ event ∈ events, event.kind ≠ .userJoined ∧ event.kind ≠ .userQuit)
    (view : View) (user : User) (message : String) :
    (view.learn (.userQuit user message)).follow events =
      (view.follow events).learn (.userQuit user message) := by
  induction events generalizing view with
  | nil => rfl
  | cons first rest inductionHypothesis =>
      have commute : (view.learn (.userQuit user message)).learn first =
          (view.learn first).learn (.userQuit user message) := by
        obtain ⟨noArrival, noDeparture⟩ := home first List.mem_cons_self
        cases first with
        | userJoined other => exact absurd rfl noArrival
        | userQuit other parting => exact absurd rfl noDeparture
        | _ => rfl
      rw [View.follow_cons, View.follow_cons, commute]
      exact inductionHypothesis (fun event member => home event (List.mem_cons_of_mem _ member)) _

/-- No letter tells that someone comes or goes. -/
def Homely (letters : List Letter) : Prop :=
  ∀ letter ∈ letters, ∀ event, letter.event = .server event →
    event.kind ≠ .userJoined ∧ event.kind ≠ .userQuit

namespace Homely

variable {letters more : List Letter}

theorem nil : Homely [] := fun _ member => by cases member

theorem append (one : Homely letters) (two : Homely more) : Homely (letters ++ more) :=
  fun letter member => (List.mem_append.mp member).elim (one letter) (two letter)

theorem of_tells {kinds : List GameEvent.Kind} (tells : Tells kinds letters) :
    Homely letters := by
  intro letter member event announced
  obtain ⟨game, told, said, -⟩ := tells letter member
  rw [said] at announced
  cases announced

theorem toAll {recipients : List UserId} {event : ServerEvent}
    (kind : event.kind ≠ .userJoined ∧ event.kind ≠ .userQuit) :
    Homely (Letter.toAll recipients (.server event)) := by
  intro letter member other announced
  obtain ⟨recipient, -, rfl⟩ := List.mem_map.mp member
  cases announced
  exact kind

/-- Such letters may be heard before a departure or after it. -/
theorem follow (homely : Homely letters) (observer : UserId) (view : View) (user : User)
    (message : String) :
    (view.learn (.userQuit user message)).follow (heard observer letters) =
      (view.follow (heard observer letters)).learn (.userQuit user message) := by
  refine View.follow_learn_quit (fun event member => ?_) view user message
  obtain ⟨letter, here, announced⟩ := List.mem_filterMap.mp member
  refine homely letter here event ?_
  unfold Letter.announcement? at announced
  split at announced
  · rename_i other said
    split at announced
    · rw [said, Option.some.inj announced]
    · cases announced
  · cases announced

end Homely

namespace Lobby

variable {lobby after : Lobby} {game : Game} {observer id : UserId} {α : Type}
  {settings : Settings} {created : Nat}

theorem homely_playAndTell {step : Step Room α} {kinds : List GameEvent.Kind}
    (tells : Tells kinds step.letters) (lobby : Lobby) (announce : α → Bool) :
    Homely (lobby.playAndTell step announce).letters := by
  have home := Homely.of_tells tells
  unfold playAndTell play
  cases step.result with
  | error refusal => exact home
  | ok value =>
      simp only
      split
      · refine home.append ?_
        unfold broadcastStatus
        split
        · exact .nil
        · exact .toAll ⟨by simp [ServerEvent.kind], by simp [ServerEvent.kind]⟩
      · exact home

theorem homely_closeGame (lobby : Lobby) (game : Game) (id : UserId) :
    Homely (lobby.closeGame game id).letters := by
  unfold closeGame
  simp only
  split
  · exact .of_tells (Room.tells_close _ id)
  · exact .toAll ⟨by simp [ServerEvent.kind], by simp [ServerEvent.kind]⟩

/-- Leaving a game is not leaving the relay. -/
theorem homely_leave (lobby : Lobby) (user : User) : Homely (lobby.leave user).letters := by
  unfold leave
  split
  · exact .nil
  · rename_i game found
    have tells := (lobby.room game).tells_quit user.id
    split
    · have home : Homely (lobby.play ((lobby.room game).quit user.id)).letters := .of_tells tells
      simp only
      split
      · exact home
      · split
        · exact home
        · exact home.append (homely_closeGame _ _ _)
    · exact homely_playAndTell tells lobby _

theorem audience_depart (people : Roster) (user : User) :
    (people.depart user).audience = people.audience.filter (· ≠ user.id) := by
  rw [Roster.audience, Roster.depart, Roster.audience, List.filter_map, List.filter_filter,
    List.filter_filter]
  simp only [Function.comp_apply, Bool.and_comm]

/-- Someone who leaves is here no more, and games look as before. -/
theorem view_depart (kept : lobby.Kept settings created) (named : lobby.Named) {user : User}
    (registered : user ∈ lobby.people.present) (parting : User) (same : parting.id = user.id)
    (message : String) :
    Lobby.view { lobby with people := lobby.people.depart user } =
      lobby.view.learn (.userQuit parting message) := by
  refine View.ext (Set.ext fun other => ?_) (view_games rfl fun game live => ?_)
  · change other ∈ (lobby.people.depart user).audience ↔
      other ∈ lobby.people.audience ∧ other ∉ ({parting.id} : Set UserId)
    rw [audience_depart, List.mem_filter, same]
    simp
  · exact game.ownerName_remembers (named.owners game live) named.dated
      (named.dated.depart kept.users_nodup registered)
      (Roster.remembers_depart kept.users_nodup registered)

/-- Nobody misses someone who has not logged in. -/
theorem learn_quit_absent (parting : User) (absent : parting.id ∉ lobby.people.audience)
    (message : String) : lobby.view.learn (.userQuit parting message) = lobby.view :=
  View.ext (Set.sdiff_singleton_eq_self absent) rfl

/-- The lobby once a user has left it and its game, and what is told of the game. -/
def parted (lobby : Lobby) (user : User) : Lobby × List Letter :=
  let gone : Lobby := { lobby with people := lobby.people.depart user }
  if user.game.isSome then ((gone.leave user).state, (gone.leave user).letters) else (gone, [])

theorem quit_registered {user : User} (known : lobby.people.registered? id = some user)
    (message : String) :
    lobby.quit id message =
      .done (lobby.parted user).1
        ((lobby.parted user).2 ++
          ⟨id, .server (.userQuit ((lobby.parted user).1.people.person id) message)⟩ ::
            if user.loggedIn then
              (lobby.parted user).1.broadcast
                (.userQuit ((lobby.parted user).1.people.person id) message)
            else [])
        () := by
  rw [quit, known]
  rfl

/-- Someone quits: the observer hears how its game stands or that it is closed,
and that it has gone. -/
theorem informs_quit (kept : lobby.Kept settings created) (named : lobby.Named)
    (hears : lobby.Hears observer) (stays : id ≠ observer) (message : String) :
    lobby.Informs observer (lobby.quit id message) ∧
      (lobby.quit id message).state.Hears observer := by
  cases known : lobby.people.registered? id with
  | none =>
      rw [quit, known]
      exact ⟨informs_refuse observer lobby _, hears⟩
  | some user =>
      obtain ⟨registered, rfl⟩ := Roster.registered?_eq_some known
      let gone : Lobby := { lobby with people := lobby.people.depart user }
      have listens : gone.Hears observer := by
        have others := audience_depart lobby.people user
        refine ⟨others ▸ hears.once.filter _, ?_⟩
        rw [others]
        exact List.mem_filter.mpr ⟨hears.listens, decide_eq_true stays.symm⟩
      obtain ⟨follows, homely, still⟩ :
          gone.view.follow (heard observer (lobby.parted user).2) = (lobby.parted user).1.view ∧
            Homely (lobby.parted user).2 ∧ (lobby.parted user).1.Hears observer := by
        unfold parted
        simp only
        split
        · exact ⟨informs_leave listens kept.nodup user, homely_leave gone user,
            listens.of_audience (agrees_leave User.lasting_badge gone user).audience⟩
        · exact ⟨rfl, .nil, listens⟩
      have departs := fun parting same =>
        view_depart kept named registered parting same message
      rw [quit_registered known]
      refine ⟨?_, still⟩
      simp only [Step.done, Informs]
      rw [heard_append, heard_other stays, ← follows]
      split
      · -- The departure is heard last, and could as well be heard first.
        rw [heard_broadcast still, View.follow_append, View.follow_cons, View.follow_nil,
          ← homely.follow, ← departs _ (id_person ..)]
      · rename_i out
        have absent : user.id ∉ lobby.people.audience := by
          intro listed
          obtain ⟨other, present, flag, number⟩ := Roster.mem_audience.mp listed
          rw [List.inj_on_of_nodup_map kept.users_nodup present registered number] at flag
          exact out flag
        rw [heard_nil, List.append_nil, ← learn_quit_absent user absent message,
          ← departs user rfl]

/-- Others quit, one after the other. -/
theorem informs_quitAll (kept : lobby.Kept settings created) (named : lobby.Named)
    (hears : lobby.Hears observer) (message : String) {ids : List UserId}
    (stays : observer ∉ ids) :
    lobby.view.follow (heard observer (lobby.quitAll message ids).2) =
        (lobby.quitAll message ids).1.view ∧
      (lobby.quitAll message ids).1.Hears observer := by
  induction ids generalizing lobby with
  | nil => exact ⟨rfl, hears⟩
  | cons first rest inductionHypothesis =>
      obtain ⟨notFirst, notRest⟩ := List.ne_and_not_mem_of_not_mem_cons stays
      obtain ⟨informs, still⟩ := informs_quit kept named hears notFirst.symm message
      obtain ⟨keptNext, namedNext⟩ := (invariant_named settings created True).effect
        ⟨kept, named⟩ (effect_quit kept.placed first message)
      obtain ⟨follows, listens⟩ := inductionHypothesis keptNext namedNext still notRest
      refine ⟨?_, listens⟩
      rw [quitAll, heard_append, View.follow_append, informs, follows]

/-! ## Logging in -/

/-- Those who heard before and the one who logs in hear what is told next. -/
theorem mem_audience_logIn {people : Roster} (registered : id ∈ people.present.map (·.id))
    (other : UserId) :
    other ∈ (people.update id (·.logIn)).audience ↔ other = id ∨ other ∈ people.audience := by
  obtain ⟨user, present, number⟩ := List.mem_map.mp registered
  have any : people.present.any (·.id = id) = true :=
    List.any_eq_true.mpr ⟨user, present, decide_eq_true number⟩
  rw [Roster.mem_audience, Roster.mem_audience, Roster.update, if_pos any]
  constructor
  · rintro ⟨later, member, flag, rfl⟩
    obtain ⟨before, old, rfl⟩ := List.mem_map.mp member
    split
    · rename_i same
      exact .inl same
    · rename_i differs
      rw [if_neg differs] at flag
      exact .inr ⟨before, old, flag, rfl⟩
  · rintro (rfl | ⟨before, old, flag, rfl⟩)
    · exact ⟨user.logIn, List.mem_map.mpr ⟨user, present, if_pos number⟩, rfl, number⟩
    · refine ⟨_, List.mem_map_of_mem old, ?_, ?_⟩
      · split
        · rfl
        · exact flag
      · split
        · rfl
        · rfl

theorem audience_nodup (kept : lobby.Kept settings created) : lobby.people.audience.Nodup :=
  kept.users_nodup.sublist (List.filter_sublist.map _)

/-- What comes of a login that is accepted. -/
def welcomed (lobby : Lobby) (user : User) : Step Lobby Unit :=
  let cleared := lobby.quitAll "Reconnected" (lobby.stale user)
  let next := { cleared.1 with people := cleared.1.people.update user.id (·.logIn) }
  .done next
    (cleared.2 ++ ⟨user.id, .user .connected⟩ ::
      (next.broadcast (.userJoined (next.people.person user.id)) ++
        lobby.server.welcomeMessages.map fun message =>
          ⟨user.id, .user (.infoMessage "server" message)⟩))
    ()

/-- A login is refused, or its user is registered and not logged in, and neither what
is known of it nor anybody else from its host stands against it. -/
theorem login_outcomes (lobby : Lobby) (id : UserId) :
    (∃ refusal, lobby.login id = .refuse lobby refusal) ∨
      ∃ user ∈ lobby.people.present, user.id = id ∧ user.loggedIn = false ∧
        loginFault? lobby.server user = none ∧ lobby.hostConflict? user = none ∧
        lobby.login id = lobby.welcomed user := by
  unfold login
  split
  · exact .inl ⟨_, rfl⟩
  · rename_i user known
    obtain ⟨registered, rfl⟩ := Roster.registered?_eq_some known
    split
    · exact .inl ⟨_, rfl⟩
    · rename_i out
      split
      · exact .inl ⟨_, rfl⟩
      · rename_i faultless
        split
        · exact .inl ⟨_, rfl⟩
        · rename_i alone
          exact .inr ⟨user, registered, rfl, Bool.eq_false_iff.mpr out, faultless, alone, rfl⟩

theorem login_cases (lobby : Lobby) (id : UserId) :
    (∃ refusal, lobby.login id = .refuse lobby refusal) ∨
      ∃ user ∈ lobby.people.present, user.id = id ∧ user.loggedIn = false ∧
        lobby.login id = lobby.welcomed user :=
  (lobby.login_outcomes id).imp_right fun ⟨user, registered, same, out, _, _, accepted⟩ =>
    ⟨user, registered, same, out, accepted⟩

/-- Whoever logs in is not among its own earlier sessions, so it stays. -/
theorem ids_welcomed (lobby : Lobby) (user : User) :
    (lobby.welcomed user).state.people.present.map (·.id) =
      (lobby.people.present.map (·.id)).filter (· ∉ lobby.stale user) := by
  have same : Agrees (·.id) (lobby.quitAll "Reconnected" (lobby.stale user)).1.people
      (lobby.welcomed user).state.people :=
    .update (fun user => show user.logIn.id = user.id from rfl) _ user.id
  rw [same.present, ids_quitAll]

theorem not_mem_stale (lobby : Lobby) (user : User) : user.id ∉ lobby.stale user := by
  intro member
  obtain ⟨other, isStale, same⟩ := List.mem_map.mp member
  have differs := (List.mem_filter.mp (List.mem_of_mem_filter isStale)).2
  simp [same] at differs

/-- Those who have not quit hear what is told next, and so does the newcomer. -/
theorem mem_audience_welcomed {user : User} (registered : user ∈ lobby.people.present)
    (other : UserId) :
    other ∈ (lobby.welcomed user).state.people.audience ↔ other = user.id ∨
      other ∈ (lobby.quitAll "Reconnected" (lobby.stale user)).1.people.audience := by
  refine mem_audience_logIn ?_ other
  rw [ids_quitAll]
  exact List.mem_filter.mpr ⟨List.mem_map_of_mem registered,
    decide_eq_true (not_mem_stale lobby user)⟩

/-- Someone logs in: the observer hears of the departure of its earlier sessions,
and that it is here. -/
theorem informs_welcomed (kept : lobby.Kept settings created) (named : lobby.Named)
    (hears : lobby.Hears observer) {user : User} (registered : user ∈ lobby.people.present)
    (out : user.loggedIn = false)
    (stays : observer ∈ (lobby.welcomed user).state.people.present.map (·.id)) :
    lobby.Informs observer (lobby.welcomed user) := by
  have apart : observer ∉ lobby.stale user := by
    rw [ids_welcomed] at stays
    simpa using (List.mem_filter.mp stays).2
  obtain ⟨follows, listens⟩ := informs_quitAll kept named hears "Reconnected" apart
  obtain ⟨⟨keptCleared, namedCleared⟩, absent⟩ := (invariant_named settings created True).quitAll
    ⟨kept, named⟩ (kept.placed.loggedIn user registered out) "Reconnected" (lobby.stale user)
  obtain ⟨keptNext, namedNext⟩ := (invariant_named settings created True).effect
    ⟨keptCleared, namedCleared⟩ (.logIn absent)
  have audience := mem_audience_welcomed registered
  have still : (lobby.welcomed user).state.Hears observer :=
    ⟨audience_nodup keptNext, (audience observer).mpr (.inr listens.listens)⟩
  have shown : (lobby.welcomed user).state.view =
      (lobby.quitAll "Reconnected" (lobby.stale user)).1.view.learn
        (.userJoined ((lobby.welcomed user).state.people.person user.id)) := by
    refine View.ext (Set.ext fun other => ?_) (view_games rfl fun game live => ?_)
    · rw [View.learn, id_person]
      exact audience other
    · exact game.ownerName_remembers (namedCleared.owners game live) namedCleared.dated
        namedNext.dated (Roster.remembers_update keptCleared.users_nodup
          fun user _ flag => congrArg (Badge.mk user.key user.name) flag.symm)
  have welcome : heard observer (lobby.server.welcomeMessages.map fun message =>
      ⟨user.id, .user (.infoMessage "server" message)⟩) = [] := by
    rw [heard, List.filterMap_map, List.filterMap_eq_nil_iff]
    exact fun _ _ => rfl
  have told : heard observer (lobby.welcomed user).letters =
      heard observer (lobby.quitAll "Reconnected" (lobby.stale user)).2 ++
        [.userJoined ((lobby.welcomed user).state.people.person user.id)] := by
    rw [welcomed, Step.done, heard_append, heard_user, heard_append, welcome, List.append_nil]
    exact congrArg _ (heard_broadcast still _)
  rw [Informs, told, View.follow_append, follows, shown]
  rfl

theorem informs_login (kept : lobby.Kept settings created) (named : lobby.Named)
    (hears : lobby.Hears observer) (id : UserId)
    (stays : observer ∈ (lobby.login id).state.people.present.map (·.id)) :
    lobby.Informs observer (lobby.login id) := by
  rcases lobby.login_cases id with ⟨refusal, refused⟩ | ⟨user, registered, -, out, accepted⟩
  · rw [refused]
    exact informs_refuse observer lobby refusal
  · rw [accepted] at stays ⊢
    exact informs_welcomed kept named hears registered out stays

/-! ## Users -/

/-- The roster changes, but nobody logs in or out, and everyone who has logged in
keeps its name. -/
theorem view_people (named : lobby.Named) {people : Roster} (dated : people.Dated)
    (same : people.audience = lobby.people.audience)
    (remembers : lobby.people.Remembers people) :
    Lobby.view { lobby with people := people } = lobby.view := by
  refine View.ext (Set.ext fun other => ?_) (view_games rfl fun game live => ?_)
  · change other ∈ people.audience ↔ other ∈ lobby.people.audience
    rw [same]
  · exact game.ownerName_remembers (named.owners game live) named.dated dated remembers

/-- Nobody hears of those who have only connected. -/
theorem informs_connect (named : lobby.Named) (address : Address) (protocol : String) :
    lobby.Informs observer (lobby.connect address protocol) := by
  unfold connect
  split
  · exact informs_refuse observer lobby _
  · split
    · exact informs_refuse observer lobby _
    · rename_i id counter found
      have dated : (lobby.people.register (User.connecting id address protocol)).Dated :=
        named.dated.register (UserId.firstFree_eq_some found).2
      have same : (lobby.people.register (User.connecting id address protocol)).audience =
          lobby.people.audience := by
        simp [Roster.audience, Roster.register, User.connecting]
      exact (view_people named dated same (Roster.remembers_register _ _)).symm

/-- What a client says of itself before it is logged in does not show. -/
theorem view_introduce (kept : lobby.Kept settings created) (named : lobby.Named)
    (out : (lobby.people.person id).loggedIn = false) (name emulator : String)
    (connectionType : UInt8) :
    Lobby.view { lobby with
      people := lobby.people.update id (·.introduce name emulator connectionType) } =
        lobby.view := by
  have agrees {α : Type} {entry : User → α}
      (same : ∀ user, entry (user.introduce name emulator connectionType) = entry user) :
      Agrees entry lobby.people
        (lobby.people.update id (·.introduce name emulator connectionType)) :=
    .update same _ id
  refine view_people named (named.dated.of_agrees (agrees fun _ => rfl))
    (Roster.audience_flags (agrees fun _ => rfl))
    (Roster.remembers_update kept.users_nodup fun user found flag => ?_)
  rw [Roster.person, found, Option.getD_some, flag] at out
  cases out

/-- Nor does a ping. -/
theorem view_measure (named : lobby.Named) (id : UserId) (ping : UInt32) :
    Lobby.view { lobby with people := lobby.people.update id ({ · with ping := ping }) } =
      lobby.view := by
  have agrees : Agrees User.badge lobby.people
      (lobby.people.update id ({ · with ping := ping })) :=
    .update (fun user => show User.badge { user with ping := ping } = user.badge from rfl) _ id
  exact view_people named (named.dated.of_agrees (agrees.map Badge.key)) agrees.audience
    agrees.remembers

end Lobby

end Netplay
