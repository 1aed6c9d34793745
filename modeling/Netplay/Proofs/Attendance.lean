/-
Module: Netplay.Proofs.Attendance
Purpose: Input is merged only in games that are played, and every queue in
  synchrony has a member that plays, as long as no member that was dropped
  signals that it is ready.
Main exports:
  Roster.Spares, Game.Attended, Room.Plays.spares, Room.Plays.attended,
  Room.attended_left, Room.attended_joined, Room.attended_closed
-/
import Netplay.Proofs.Conduct

namespace Netplay

/-! ## Rosters that differ in few users -/

/-- Users with other numbers are found as before. -/
def Roster.Spares (people later : Roster) (ids : List UserId) : Prop :=
  ∀ other, other ∉ ids → later.find? other = people.find? other

namespace Roster.Spares

variable {people later last : Roster} {ids : List UserId}

theorem refl (people : Roster) (ids : List UserId) : people.Spares people ids :=
  fun _ _ => rfl

theorem trans (one : people.Spares later ids) (two : later.Spares last ids) :
    people.Spares last ids :=
  fun other apart => (two other apart).trans (one other apart)

theorem person (spares : people.Spares later ids) {other : UserId} (apart : other ∉ ids) :
    later.person other = people.person other := by
  rw [Roster.person, spares other apart, Roster.person]

/-- One user is changed. -/
theorem update {change : User → User} (keeps : ∀ user, (change user).id = user.id)
    {id : UserId} (among : id ∈ ids) : people.Spares (people.update id change) ids := by
  intro other apart
  rw [find?_update keeps]
  cases found : people.find? other with
  | none => rfl
  | some user =>
      have differs : user.id ≠ id := fun same =>
        apart (id_of_find? found ▸ same ▸ among)
      rw [Option.map_some, if_neg differs]

/-- Several users are changed, one after the other. -/
theorem foldl_update {α : Type} (key : α → UserId) (change : α → User → User)
    (keeps : ∀ entry user, (change entry user).id = user.id) {entries : List α}
    (among : ∀ entry ∈ entries, key entry ∈ ids) (people : Roster) :
    people.Spares
      (entries.foldl (fun people entry => people.update (key entry) (change entry)) people)
      ids := by
  induction entries generalizing people with
  | nil => exact refl people ids
  | cons first rest inductionHypothesis =>
      have here : people.Spares (people.update (key first) (change first)) ids :=
        update (keeps first) (among first List.mem_cons_self)
      exact here.trans (inductionHypothesis
        (fun entry member => among entry (List.mem_cons_of_mem _ member)) _)

theorem numberPlayers {change : UInt8 → User → User}
    (keeps : ∀ player user, (change player user).id = user.id) {members : List UserId}
    (among : ∀ member ∈ members, member ∈ ids) (people : Roster) :
    people.Spares (Room.numberPlayers people members change) ids := by
  refine foldl_update Prod.fst (fun entry => change (UInt8.ofNat (entry.2 + 1))) ?_ ?_ people
  · exact fun entry => keeps _
  · intro entry member
    apply among
    rw [← List.zipIdx_map_fst 0 members]
    exact List.mem_map.mpr ⟨entry, member, rfl⟩

theorem dismissed {members : List UserId} (among : ∀ member ∈ members, member ∈ ids)
    (people : Roster) : people.Spares (Room.dismissed people members) ids :=
  foldl_update id (fun _ => (·.leaveGame)) (fun _ _ => rfl) among people

/-- A user that leaves the relay is found as before. -/
theorem depart {user : User} (nodup : (people.present.map (·.id)).Nodup)
    (registered : user ∈ people.present) : people.Spares (people.depart user) ids := by
  intro other _
  unfold find? registered? Roster.depart
  simp only
  rw [List.find?_filter, List.find?_cons]
  by_cases itself : other = user.id
  · have gone : people.present.find? (fun person =>
        decide (decide (person.id ≠ user.id) = true ∧ decide (person.id = other) = true)) =
          none := by
      apply List.find?_eq_none.mpr
      intro person _
      simp [itself]
    rw [gone, itself, find?_key nodup registered]
    simp
  · have search : (fun person : User =>
        decide (decide (person.id ≠ user.id) = true ∧ decide (person.id = other) = true)) =
          fun person => decide (person.id = other) := by
      funext person
      by_cases same : person.id = other
      · simp [same, itself]
      · simp [same]
    rw [search]
    simp [Ne.symm itself]

/-- A user that comes with a new number is nobody else. -/
theorem register {user : User} (among : user.id ∈ ids) :
    people.Spares (people.register user) ids := by
  intro other apart
  have differs : user.id ≠ other := fun same => apart (same ▸ among)
  unfold find? registered? Roster.register
  simp only [List.find?_append, List.find?_cons, List.find?_nil, differs, decide_false]
  cases people.present.find? (·.id = other) with
  | none => rfl
  | some user => rfl

end Roster.Spares

/-! ## Games -/

namespace Game

/-- Members have their seats; input is merged only in a game that is played;
and a queue in synchrony belongs to a member that plays. -/
structure Attended (game : Game) (people : Roster) : Prop where
  seated : game.Seated people
  played : game.synched = true → game.status = .playing
  manned : ∀ queue ∈ game.queues, queue.synched = true →
    queue.user ∈ game.members ∧ (people.person queue.user).status = .playing

namespace Attended

variable {game after : Game} {people later : Roster}

/-- What members are does not change. -/
theorem regard (attended : game.Attended people)
    (known : ∀ member ∈ game.members, (later.find? member).isSome)
    (players : ∀ member ∈ game.members,
      (later.person member).player = (people.person member).player)
    (statuses : ∀ member ∈ game.members,
      (later.person member).status = (people.person member).status) :
    game.Attended later where
  seated := attended.seated.stay (List.Sublist.refl _) known players
  played := attended.played
  manned := fun queue member flag => by
    obtain ⟨isMember, plays⟩ := attended.manned queue member flag
    exact ⟨isMember, (statuses _ isMember).trans plays⟩

/-- In a game that waits there are no queues. -/
theorem of_waiting (seated : game.Seated people) (waiting : game.status = .waiting)
    (off : game.synched = false) : game.Attended people where
  seated := seated
  played := fun on => by
    rw [off] at on
    cases on
  manned := fun queue member => by
    rw [List.map_eq_nil_iff.mp (seated.waits waiting)] at member
    cases member

/-- A game that waits merges nothing. -/
theorem idle (attended : game.Attended people) (waiting : game.status = .waiting) :
    game.queues = [] ∧ game.synched = false := by
  refine ⟨List.map_eq_nil_iff.mp (attended.seated.waits waiting), ?_⟩
  cases flag : game.synched with
  | false => rfl
  | true =>
      have playing := attended.played flag
      rw [waiting] at playing
      cases playing

/-- The game gets other settings of who may come. -/
theorem barred (attended : game.Attended people) (kicked : List UserId) :
    Attended { game with kicked := kicked } people :=
  ⟨attended.seated.of_seats rfl rfl rfl Iff.rfl, attended.played, attended.manned⟩

end Attended

end Game

/-! ## What members do -/

namespace Room

open Game Roster

variable {room after : Room} {mayRejoin : Prop} {id : UserId}

/-- A user that rests concerns nobody else. -/
theorem spares_rested {ids : List UserId} (among : id ∈ ids) :
    room.people.Spares (room.rested id) ids := by
  refine .update ?_ among
  exact fun _ => rfl

/-- Whatever members play, it concerns nobody else. -/
theorem Plays.spares (plays : room.Plays mayRejoin after) :
    room.people.Spares after.people room.game.members := by
  cases plays with
  | start owner waiting someone =>
      refine Spares.numberPlayers ?_ ?_ _
      · exact fun _ _ => rfl
      · exact fun _ member => member
  | ready member gathering seat next rejoins => exact .refl _ _
  | @drop id slot member on seat =>
      have rested : room.people.Spares (room.rested id) room.game.members :=
        spares_rested member
      unfold bench
      split
      · exact rested
      · exact rested
  | work works => exact works.people ▸ .refl _ _

/-- Nor does it when a member leaves. -/
theorem spares_left (member : id ∈ room.game.members) :
    room.people.Spares (room.left id).people room.game.members := by
  have shed : room.Plays True (room.shed id) := plays_shed id
  have gone : room.people.Spares ((room.shed id).people.update id (·.leaveGame))
      room.game.members := by
    refine shed.spares.trans (.update ?_ member)
    exact fun _ => rfl
  unfold left without
  simp only
  split
  · refine gone.trans (.numberPlayers ?_ ?_ _)
    · exact fun _ _ => rfl
    · intro other stays
      rw [← shed.keeps.members]
      exact (List.mem_filter.mp stays).1
  · exact gone

/-! ### Seats -/

/-- Work on merges leaves players in their seats. -/
theorem seated_works {game later : Game} {people : Roster} (seated : game.Seated people)
    (works : game.Works later) : later.Seated people := by
  have seats : later.seats = game.seats := works.queues.seats
  obtain ⟨_, _, _, _, _, rfl⟩ := works.frame
  exact seated.of_seats seats rfl rfl Iff.rfl

/-- In a round that starts each member gets a seat. -/
theorem seated_start (seated : room.game.Seated room.people)
    (waiting : room.game.status = .waiting) (actions : Nat) :
    (room.commence actions).game.Seated (room.commence actions).people := by
  have none : room.game.queues = [] := List.map_eq_nil_iff.mp (seated.waits waiting)
  have ended : room.game.endRound = room.game := if_pos none
  rw [commence, ended]
  exact seated.start (fun player user => (rfl : (seatPlayer player user).id = user.id))
    (fun _ _ => rfl) actions

/-- Getting ready moves nobody. -/
theorem seated_ready {slot : Nat} {status : GameStatus} {synched : Bool}
    (seated : room.game.Seated room.people) (gathering : room.game.status = .synchronizing)
    (next : status ≠ .waiting) :
    Seated { room.game with
      queues := room.game.queues.modify slot (·.setSynched true)
      status := status
      synched := synched } room.people := by
  refine seated.of_seats (fields_modify (·.seat_setSynched true) _ slot) rfl rfl ?_
  rw [gathering]
  exact ⟨fun waiting => absurd waiting next, fun waiting => by cases waiting⟩

/-- A member that is dropped keeps its seat, unless the round is over. -/
theorem seated_bench (seated : room.game.Seated room.people) (id : UserId) (slot : Nat) :
    (room.bench id slot).game.Seated (room.bench id slot).people := by
  have hushed := seated_works seated (.of_dims (room.game.dims_hush slot))
  have members : (room.game.hush slot).members = room.game.members :=
    (Keeps.hush room.game slot).members
  have player : ∀ other,
      ((room.rested id).person other).player = (room.people.person other).player :=
    fun other => field_update (·.player) (fun _ => rfl) fun _ => rfl
  have known : ∀ other ∈ room.game.members, ((room.rested id).find? other).isSome := by
    intro other isMember
    refine (isSome_find?_update ?_).trans (seated.known other isMember)
    exact fun _ => rfl
  unfold bench
  split
  · exact hushed.stay (List.Sublist.refl _) (members ▸ known) fun other _ => player other
  · obtain ⟨_, _, frame⟩ := (room.game.hush slot).endRound_frame
    refine hushed.idle ?_ ?_ ?_ (.inl rfl) ?_
    · rw [frame]
    · rw [frame]
    · rw [frame]
    · rw [frame]
      exact members ▸ known

/-- Whatever members play, they have their seats. -/
theorem Plays.seated (plays : room.Plays mayRejoin after)
    (seated : room.game.Seated room.people) : after.game.Seated after.people := by
  cases plays with
  | start owner waiting someone => exact seated_start seated waiting _
  | @ready id slot status synched member gathering seat next rejoins =>
      refine seated_ready seated gathering ?_
      rcases next with ⟨rfl, -⟩ | ⟨rfl, -⟩
      · decide
      · decide
  | drop member on seat => exact seated_bench seated _ _
  | work works => exact works.people ▸ seated_works seated works.game

/-- Those who stay keep their seats when a member leaves. -/
theorem seated_without (seated : room.game.Seated room.people) (id : UserId) :
    (room.without id).game.Seated (room.without id).people := by
  have sublist : (room.game.members.filter (· ≠ id)).Sublist room.game.members :=
    List.filter_sublist
  have known : ∀ other ∈ room.game.members.filter (· ≠ id),
      ((room.people.update id (·.leaveGame)).find? other).isSome := by
    intro other stays
    refine (isSome_find?_update ?_).trans (seated.known other (sublist.subset stays))
    exact fun _ => rfl
  have others : room.people.Spares (room.people.update id (·.leaveGame)) [id] := by
    refine .update ?_ List.mem_cons_self
    exact fun _ => rfl
  unfold without
  simp only
  split
  · rename_i waiting
    have none : room.game.queues = [] := List.map_eq_nil_iff.mp (seated.waits waiting)
    refine seated.idle rfl sublist none (.inl waiting) fun other stays => ?_
    refine (isSome_numberPlayers ?_ _ _ _).trans (known other stays)
    exact fun _ _ => rfl
  · refine seated.stay sublist known fun other stays => ?_
    have apart : other ∉ [id] := fun itself =>
      of_decide_eq_true (List.mem_filter.mp stays).2 (List.mem_singleton.mp itself)
    rw [others.person apart]

/-- A user that joins a game that waits gets a seat when a round starts. -/
theorem seated_joined (seated : room.game.Seated room.people)
    (new : id ∉ room.game.members) (waiting : room.game.status = .waiting)
    (space : room.game.members.length < room.game.settings.maxPlayers.toNat)
    (registered : (room.people.find? id).isSome) :
    (room.joined id).game.Seated (room.joined id).people := by
  have none : room.game.seats = [] := seated.waits waiting
  refine ⟨?_, ?_, ?_, fun _ => none, fun on => absurd waiting on, seated.own, seated.desk,
    fun on => absurd none on⟩
  · refine List.nodup_append.mpr ⟨seated.nodup, List.nodup_singleton id, ?_⟩
    intro member old other isUser same
    rw [List.mem_singleton] at isUser
    exact new (isUser ▸ same ▸ old)
  · exact Nat.le_trans (Nat.le_of_eq (List.length_append ..)) space
  · intro member isMember
    refine (isSome_find?_update ?_).trans ?_
    · exact fun _ => rfl
    rcases List.mem_append.mp isMember with old | isUser
    · exact seated.known member old
    · rw [List.mem_singleton.mp isUser]
      exact registered

/-! ### Queues in synchrony -/

/-- The users of the queues that a round starts with are the members. -/
theorem synched_startQueues (game : Game) :
    ∀ queue ∈ game.startQueues, queue.synched = false := by
  intro queue member
  obtain ⟨entry, -, rfl⟩ := List.mem_map.mp member
  rfl

theorem attended_start (attended : room.game.Attended room.people)
    (waiting : room.game.status = .waiting) (actions : Nat) :
    (room.commence actions).game.Attended (room.commence actions).people := by
  have ended : room.game.endRound = room.game := if_pos (attended.idle waiting).1
  refine ⟨seated_start attended.seated waiting actions, fun on => ?_, fun queue member flag => ?_⟩
  · cases on
  · rw [commence, ended] at member
    rw [synched_startQueues room.game queue member] at flag
    cases flag

/-- A member that plays and is ready is a member that plays. -/
theorem attended_ready {slot : Nat} {status : GameStatus} {synched : Bool}
    (attended : room.game.Attended room.people) (member : id ∈ room.game.members)
    (gathering : room.game.status = .synchronizing)
    (seat : room.game.slotFor? (room.people.person id) = some slot)
    (next : status = .synchronizing ∧ synched = room.game.synched ∨
      status = .playing ∧ synched = true)
    (plays : (room.people.person id).status = .playing) :
    Attended { room.game with
      queues := room.game.queues.modify slot (·.setSynched true)
      status := status
      synched := synched } room.people := by
  obtain ⟨place, own, seats, placed, user, -⟩ :=
    attended.seated.slotFor? member (queues_ne_nil_of_slotFor? seat)
  obtain rfl : slot = place := Option.some.inj (seat.symm.trans seats)
  refine ⟨seated_ready attended.seated gathering ?_, fun on => ?_, fun queue queueMember flag => ?_⟩
  · rcases next with ⟨rfl, -⟩ | ⟨rfl, -⟩
    · decide
    · decide
  · rcases next with ⟨-, same⟩ | ⟨is, -⟩
    · have playing := attended.played (same.symm.trans on)
      exact absurd (gathering.symm.trans playing) (by decide)
    · exact is
  · obtain ⟨other, here⟩ := List.getElem?_of_mem queueMember
    rw [List.getElem?_modify] at here
    obtain ⟨before, beforePlace, rfl⟩ := Option.map_eq_some_iff.mp here
    by_cases same : slot = other
    · subst same
      rw [beforePlace] at placed
      cases placed
      rw [if_pos rfl]
      rw [own.setSynched_user true, user]
      exact ⟨member, plays⟩
    · rw [if_neg same] at flag ⊢
      exact attended.manned before (List.mem_of_getElem? beforePlace) flag

/-- Work on merges leaves players where they are. -/
theorem attended_works {game later : Game} {people : Roster}
    (attended : game.Attended people) (works : game.Works later) :
    later.Attended people := by
  have seated := seated_works attended.seated works
  have queues := works.queues
  have synched := works.synched
  obtain ⟨_, _, _, _, _, rfl⟩ := works.frame
  refine ⟨seated,
    fun on => attended.played (synched on), fun queue member flag => ?_⟩
  obtain ⟨before, beforeMember, ages⟩ := queues.back member
  have user : queue.user = before.user := congrArg Seat.user ages.seat
  rw [user]
  exact attended.manned before beforeMember (ages.synched flag)

/-- Once a member is dropped, the queues in synchrony are those of members that
still play. -/
theorem manned_hush {slot : Nat} (attended : room.game.Attended room.people)
    (member : id ∈ room.game.members)
    (seat : room.game.slotFor? (room.people.person id) = some slot) :
    ∀ queue ∈ (room.game.hush slot).queues, queue.synched = true →
      queue.user ∈ room.game.members ∧
        ((room.rested id).person queue.user).status = .playing := by
  obtain ⟨place, own, seats, placed, user, -⟩ :=
    attended.seated.slotFor? member (queues_ne_nil_of_slotFor? seat)
  obtain rfl : slot = place := Option.some.inj (seat.symm.trans seats)
  have dims := room.game.dims_hush slot
  have hushed := attended_works attended (.of_dims dims)
  have rests : room.people.Spares (room.rested id) [id] := spares_rested List.mem_cons_self
  intro queue queueMember flag
  obtain ⟨isMember, plays⟩ := hushed.manned queue queueMember flag
  refine ⟨(Keeps.hush room.game slot).members ▸ isMember, ?_⟩
  have another : queue.user ∉ [id] := by
    rw [List.mem_singleton]
    intro itself
    -- The queue of the member itself is out of synchrony.
    obtain ⟨other, here⟩ := List.getElem?_of_mem queueMember
    obtain ⟨before, beforePlace, fades⟩ := dims.queues.2 other queue here
    have users : (room.game.queues.map (·.user)).Nodup := by
      have own := attended.seated.own
      rwa [Game.seats, List.map_map] at own
    have same := place_unique users beforePlace placed
      ((fades.user.symm.trans itself).trans user.symm)
    rw [silent_hush (same ▸ here)] at flag
    cases flag
  rw [rests.person another]
  exact plays

/-- A member that is dropped has a queue no more, and a round in which no member
plays is over. -/
theorem attended_bench {slot : Nat} (attended : room.game.Attended room.people)
    (member : id ∈ room.game.members)
    (seat : room.game.slotFor? (room.people.person id) = some slot) :
    (room.bench id slot).game.Attended (room.bench id slot).people := by
  have seated := seated_bench attended.seated id slot
  have hushed := attended_works attended (.of_dims (room.game.dims_hush slot))
  have manned := manned_hush attended member seat
  have members : (room.game.hush slot).members = room.game.members :=
    (Keeps.hush room.game slot).members
  unfold bench at seated ⊢
  split at seated
  · rename_i plays
    rw [if_pos plays]
    refine ⟨seated, hushed.played, fun queue queueMember flag => ?_⟩
    obtain ⟨isMember, plays⟩ := manned queue queueMember flag
    exact ⟨members.symm ▸ isMember, plays⟩
  · rename_i nobody
    rw [if_neg nobody]
    obtain ⟨_, _, frame⟩ := (room.game.hush slot).endRound_frame
    refine .of_waiting seated rfl ?_
    -- A game that goes on merging has a queue in synchrony, and so a player.
    cases flag : (room.game.hush slot).synched with
    | false =>
        rw [frame]
        exact flag
    | true =>
        have two := two_le_synchedCount_hush flag
        have some : 0 < (room.game.hush slot).synchedCount := by omega
        obtain ⟨queue, queueMember, on⟩ := List.countP_pos_iff.mp some
        obtain ⟨isMember, plays⟩ := manned queue queueMember on
        exact absurd (List.any_eq_true.mpr ⟨queue.user, isMember, decide_eq_true plays⟩)
          nobody

/-- Whatever members play, as long as no dropped member gets ready, every queue
in synchrony has a member that plays. -/
theorem Plays.attended (plays : room.Plays False after)
    (attended : room.game.Attended room.people) : after.game.Attended after.people := by
  cases plays with
  | start owner waiting someone => exact attended_start attended waiting _
  | @ready id slot status synched member gathering seat next rejoins =>
      refine attended_ready attended member gathering seat next ?_
      exact Decidable.not_not.mp fun rests => rejoins ⟨member, gathering, rests⟩
  | drop member on seat => exact attended_bench attended member seat
  | work works => exact works.people ▸ attended_works attended works.game

/-- A member that is about to leave does not play, unless the game waits. -/
theorem shed_rests (seated : room.game.Seated room.people)
    (member : id ∈ room.game.members) :
    (room.shed id).game.status = .waiting ∨
      ((room.shed id).people.person id).status ≠ .playing := by
  unfold shed
  split
  · rename_i plays
    rcases room.drop_cases id with ⟨-, hindered⟩ | ⟨slot, -, -, -, makes⟩
    · -- Nothing hinders a member that plays from being dropped.
      have on : room.game.queues ≠ [] := by
        intro none
        have nobody := seated.empty plays.2 (List.map_eq_nil_iff.mpr none)
        rw [nobody] at member
        cases member
      obtain ⟨slot, _, seat, -⟩ := seated.slotFor? member on
      rcases hindered with absent | none | nowhere
      · exact absurd member absent
      · exact absurd none on
      · rw [nowhere] at seat
        cases seat
    · right
      have rests : ((room.rested id).person id).status = .idle := by
        refine congrArg User.status (person_update_self ?_ (seated.known id member))
        exact fun _ => rfl
      rw [makes.state, bench]
      split
      · exact fun plays => by cases rests.symm.trans plays
      · exact fun plays => by cases rests.symm.trans plays
  · rename_i still
    rcases not_and_or.mp still with rests | waiting
    · exact .inr rests
    · exact .inl (Decidable.not_not.mp waiting)

/-- A member that leaves leaves no queue in synchrony behind. -/
theorem attended_left (attended : room.game.Attended room.people)
    (member : id ∈ room.game.members) :
    (room.left id).game.Attended (room.left id).people := by
  have shed : room.Plays False (room.shed id) := plays_shed id
  have rests := shed_rests attended.seated member
  have attended := shed.attended attended
  rw [left]
  generalize room.shed id = before at rests attended
  have seated := seated_without attended.seated id
  have others : before.people.Spares (before.people.update id (·.leaveGame)) [id] := by
    refine .update ?_ List.mem_cons_self
    exact fun _ => rfl
  unfold without at seated ⊢
  simp only at seated ⊢
  split at seated
  · rename_i waiting
    rw [if_pos waiting]
    exact .of_waiting seated waiting (attended.idle waiting).2
  · rename_i going
    rw [if_neg going]
    refine ⟨seated, attended.played, fun queue queueMember flag => ?_⟩
    obtain ⟨isMember, plays⟩ := attended.manned queue queueMember flag
    have differs : queue.user ≠ id := by
      rintro rfl
      exact rests.elim going fun idle => idle plays
    have stays : queue.user ∈ before.game.members.filter (· ≠ id) :=
      List.mem_filter.mpr ⟨isMember, decide_eq_true differs⟩
    rw [others.person fun itself => differs (List.mem_singleton.mp itself)]
    exact ⟨stays, plays⟩

/-- A game that a user joins merges nothing. -/
theorem attended_joined (attended : room.game.Attended room.people)
    (new : id ∉ room.game.members) (waiting : room.game.status = .waiting)
    (space : room.game.members.length < room.game.settings.maxPlayers.toNat)
    (registered : (room.people.find? id).isSome) :
    (room.joined id).game.Attended (room.joined id).people :=
  .of_waiting (seated_joined attended.seated new waiting space registered) waiting
    (attended.idle waiting).2

/-- A game that is closed has nobody to attend it, and merges nothing. -/
theorem attended_closed {silent : Game} (attended : room.game.Attended room.people)
    (dims : room.game.Dims silent) (off : silent.synched = false) (later : Roster) :
    ({ silent with members := [] }.endRound).Attended later := by
  obtain ⟨_, _, frame⟩ := endRound_frame { silent with members := [] }
  have settings : silent.settings = room.game.settings := by
    obtain ⟨_, _, _, _, same⟩ := dims.frame
    rw [same]
  have idle : ({ silent with members := [] }.endRound).queues = [] := by rw [frame]
  have nobody : ({ silent with members := [] }.endRound).members = [] := by rw [frame]
  have muted : ({ silent with members := [] }.endRound).synched = false := by
    rw [frame]
    exact off
  refine ⟨attended.seated.idle ?_ ?_ idle (.inr nobody) ?_, ?_, ?_⟩
  · rw [frame]
    exact settings
  · rw [nobody]
    exact List.nil_sublist _
  · rw [nobody]
    exact fun member here => by cases here
  · rw [muted]
    exact fun on => by cases on
  · rw [idle]
    exact fun queue here => by cases here

end Room

end Netplay
