/-
Module: Netplay.Proofs.Identity
Purpose: Nobody is logged in twice under one name from one host, nor under two names
  where hosts may not be shared: a login replaces earlier ones or is refused.
Main exports:
  Venue.Seemly, Venue.SeemlyRun, Lobby.Sole, Venue.sole_step, Lobby.Replaces,
  Lobby.OnePerIdentity, Venue.one_per_identity
-/
import Netplay.Proofs.Origins

namespace Netplay

/-! ## Who is who -/

/-- Two entries are those of one user in one session: they agree in number, address,
name and login. -/
structure User.Resembles (user old : User) : Prop where
  id : user.id = old.id
  address : user.address = old.address
  name : user.name = old.name
  loggedIn : user.loggedIn = old.loggedIn

theorem User.resembles_of_card {user old : User} (same : user.card = old.card) :
    user.Resembles old where
  id := (congrArg User.id same :)
  address := (congrArg User.address same :)
  name := (congrArg User.name same :)
  loggedIn := (congrArg User.loggedIn same :)

namespace Lobby

variable {lobby after : Lobby} {user newcomer other : User}

/-- No two users are logged in under one name from one host, nor any two from one host
where hosts may not be shared. -/
structure Sole (lobby : Lobby) : Prop where
  name : ∀ one ∈ lobby.people.present, ∀ other ∈ lobby.people.present,
    one.loggedIn = true → other.loggedIn = true → one.address.host = other.address.host →
      one.name = other.name → one = other
  host : lobby.server.allowSharedHost = false →
    ∀ one ∈ lobby.people.present, ∀ other ∈ lobby.people.present,
      one.loggedIn = true → other.loggedIn = true → one.address.host = other.address.host →
        one = other

theorem mem_sameHost : other ∈ lobby.sameHost user ↔ other ∈ lobby.people.present ∧
    other.id ≠ user.id ∧ other.loggedIn = true ∧ other.address.host = user.address.host := by
  simp [sameHost, and_assoc]

theorem mem_stale {id : UserId} : id ∈ lobby.stale user ↔
    ∃ other ∈ lobby.sameHost user, other.name = user.name ∧ other.id = id := by
  simp [stale, and_assoc]

/-- Where hosts may not be shared, whoever is logged in from the host of a user that
may log in has its name. -/
theorem name_of_alone (strict : lobby.server.allowSharedHost = false)
    (alone : lobby.hostConflict? user = none) (member : other ∈ lobby.sameHost user) :
    other.name = user.name := by
  rw [hostConflict?, strict, if_neg Bool.false_ne_true, Option.map_eq_none_iff,
    List.find?_eq_none] at alone
  simpa using alone other member

/-- Whoever is still there once a login has been accepted does not share a host with
the newcomer, or shares it under another name where that is allowed. -/
theorem not_sameHost_of_stays (member : other ∈ lobby.sameHost newcomer)
    (stays : other.id ∈ (lobby.welcomed newcomer).state.people.present.map (·.id)) :
    other.name ≠ newcomer.name := by
  intro same
  rw [ids_welcomed] at stays
  exact of_decide_eq_true (List.mem_filter.mp stays).2 (mem_stale.mpr ⟨other, member, same, rfl⟩)

end Lobby

/-! ## Moves -/

namespace Venue

variable {settings : Settings} {venue : Venue} {move : Move} {user : User}

/-- Nobody who is logged in says anew who it is. -/
def Seemly (venue : Venue) : Move → Prop
  | .introduce user _ _ _ => venue.lobby.people.Outside user
  | _ => True

instance (venue : Venue) (move : Move) : Decidable (venue.Seemly move) :=
  decidable_of_iff ((match move with
      | .introduce user _ _ _ => decide (venue.lobby.people.Outside user)
      | _ => true) = true) <| by
    cases move <;> simp only [Seemly, decide_eq_true_eq]

/-- That is so of each move of a row when it is made. -/
def SeemlyRun (venue : Venue) : List Move → Prop
  | [] => True
  | move :: rest => venue.Seemly move ∧ (venue.step move).SeemlyRun rest

instance decidableSeemlyRun : (venue : Venue) → (moves : List Move) →
    Decidable (venue.SeemlyRun moves)
  | _, [] => inferInstanceAs (Decidable True)
  | venue, move :: rest =>
      have : Decidable ((venue.step move).SeemlyRun rest) :=
        decidableSeemlyRun (venue.step move) rest
      inferInstanceAs (Decidable (_ ∧ _))

/-- The move completes the login of a user. -/
structure Admits (venue : Venue) (move : Move) (newcomer : User) : Prop where
  registered : newcomer ∈ venue.lobby.people.present
  logs : move = .login newcomer.id
  alone : venue.lobby.hostConflict? newcomer = none
  accepted : venue.lobby.login newcomer.id = venue.lobby.welcomed newcomer

/-- Whoever is logged in after a move was so before, or has just logged in. -/
theorem resembles_step (nodup : (venue.lobby.people.present.map (·.id)).Nodup)
    (seemly : venue.Seemly move) (member : user ∈ (venue.step move).lobby.people.present)
    (flag : user.loggedIn = true) :
    (∃ old ∈ venue.lobby.people.present, user.Resembles old) ∨
      ∃ newcomer, venue.Admits move newcomer ∧ user.Resembles newcomer.logIn := by
  have tidy (tidy : venue.lobby.Tidy move) :
      (∃ old ∈ venue.lobby.people.present, user.Resembles old) ∨
        ∃ newcomer, venue.Admits move newcomer ∧ user.Resembles newcomer.logIn := by
    cases origin_step nodup tidy member with
    | stayed registered same => exact .inl ⟨_, registered, User.resembles_of_card same⟩
    | outside out nobody => exact absurd (flag.symm.trans out) (by decide)
    | admitted registered out logs faultless alone accepted same =>
        exact .inr ⟨_, ⟨registered, logs, alone, accepted⟩, User.resembles_of_card same⟩
  cases move with
  | introduce id name emulator connectionType => exact tidy seemly
  | measure id ping =>
      obtain ⟨old, registered, made⟩ := Roster.mem_present_update member
      refine .inl ⟨old, registered, ?_⟩
      rw [made]
      split
      · exact ⟨rfl, rfl, rfl, rfl⟩
      · exact ⟨rfl, rfl, rfl, rfl⟩
  | _ => exact tidy trivial

/-- A newcomer and whoever else is logged in after the move are told apart. -/
theorem apart_of_admits {newcomer old : User} (admits : venue.Admits move newcomer)
    (registered : old ∈ venue.lobby.people.present) (flag : old.loggedIn = true)
    (host : old.address.host = newcomer.address.host)
    (stays : old.id ∈ (venue.step move).lobby.people.present.map (·.id)) :
    old.id = newcomer.id ∨
      old.name ≠ newcomer.name ∧ venue.lobby.server.allowSharedHost ≠ false := by
  by_cases itself : old.id = newcomer.id
  · exact .inl itself
  · have sharing : old ∈ venue.lobby.sameHost newcomer :=
      Lobby.mem_sameHost.mpr ⟨registered, itself, flag, host⟩
    have left : (venue.step move).lobby = (venue.lobby.welcomed newcomer).state := by
      rw [admits.logs, ← admits.accepted]
      rfl
    have differs := Lobby.not_sameHost_of_stays sharing (left ▸ stays)
    exact .inr ⟨differs, fun strict =>
      differs (Lobby.name_of_alone strict admits.alone sharing)⟩

/-- Whoever is logged in from one host after a move, and under one name or where hosts
may not be shared, is one user. -/
theorem id_eq_step {one other : User} (nodup : (venue.lobby.people.present.map (·.id)).Nodup)
    (sole : venue.lobby.Sole) (seemly : venue.Seemly move)
    (oneMember : one ∈ (venue.step move).lobby.people.present)
    (otherMember : other ∈ (venue.step move).lobby.people.present)
    (oneFlag : one.loggedIn = true) (otherFlag : other.loggedIn = true)
    (host : one.address.host = other.address.host)
    (clash : one.name = other.name ∨ venue.lobby.server.allowSharedHost = false) :
    one.id = other.id := by
  -- A newcomer clashes with nobody who was there before.
  have mixed {newcomer old entry : User} (admits : venue.Admits move newcomer)
      (registered : old ∈ venue.lobby.people.present) (same : entry.Resembles old)
      (member : entry ∈ (venue.step move).lobby.people.present) (flag : entry.loggedIn = true)
      (host : entry.address.host = newcomer.address.host)
      (clash : entry.name = newcomer.name ∨ venue.lobby.server.allowSharedHost = false) :
      entry.id = newcomer.id := by
    rcases apart_of_admits admits registered (same.loggedIn ▸ flag) (same.address ▸ host)
      (same.id ▸ List.mem_map_of_mem member) with itself | ⟨differs, shared⟩
    · exact same.id.trans itself
    · exact absurd (same.name ▸ clash) (not_or.mpr ⟨differs, shared⟩)
  rcases resembles_step nodup seemly oneMember oneFlag with
    ⟨oneOld, oneThere, oneSame⟩ | ⟨oneNew, oneAdmits, oneSame⟩
  · rcases resembles_step nodup seemly otherMember otherFlag with
      ⟨otherOld, otherThere, otherSame⟩ | ⟨otherNew, otherAdmits, otherSame⟩
    · have hosts : oneOld.address.host = otherOld.address.host := by
        rw [← oneSame.address, ← otherSame.address, host]
      have oneFlag := oneSame.loggedIn.symm.trans oneFlag
      have otherFlag := otherSame.loggedIn.symm.trans otherFlag
      have same : oneOld = otherOld := by
        rcases clash with names | strict
        · exact sole.name oneOld oneThere otherOld otherThere oneFlag otherFlag hosts
            (oneSame.name.symm.trans (names.trans otherSame.name))
        · exact sole.host strict oneOld oneThere otherOld otherThere oneFlag otherFlag hosts
      rw [oneSame.id, otherSame.id, same]
    · refine (mixed otherAdmits oneThere oneSame oneMember oneFlag ?_ ?_).trans
        otherSame.id.symm
      · exact host.trans (congrArg Address.host otherSame.address)
      · exact clash.imp_left (·.trans otherSame.name)
  · rcases resembles_step nodup seemly otherMember otherFlag with
      ⟨otherOld, otherThere, otherSame⟩ | ⟨otherNew, otherAdmits, otherSame⟩
    · refine oneSame.id.trans (mixed oneAdmits otherThere otherSame otherMember otherFlag ?_
        ?_).symm
      · exact host.symm.trans (congrArg Address.host oneSame.address)
      · exact clash.imp_left (·.symm.trans oneSame.name)
    · have logs := oneAdmits.logs.symm.trans otherAdmits.logs
      injection logs with numbers
      rw [oneSame.id, otherSame.id]
      exact numbers

theorem sole_step (kept : venue.lobby.Kept settings venue.created) (sole : venue.lobby.Sole)
    (seemly : venue.Seemly move) : (venue.step move).lobby.Sole := by
  have later := kept_step kept move
  have server : (venue.step move).lobby.server = venue.lobby.server :=
    later.server.trans kept.server.symm
  have unique := fun one other oneMember otherMember => @List.inj_on_of_nodup_map _ _ (·.id)
    (venue.step move).lobby.people.present later.users_nodup one oneMember other otherMember
  refine ⟨fun one here other there flag otherFlag host name => ?_,
    fun strict one here other there flag otherFlag host => ?_⟩
  · exact unique one other here there (id_eq_step kept.users_nodup sole seemly here there flag
      otherFlag host (.inl name))
  · exact unique one other here there (id_eq_step kept.users_nodup sole seemly here there flag
      otherFlag host (.inr (server ▸ strict)))

/-- So it is after a row of moves. -/
theorem sole_run (kept : venue.lobby.Kept settings venue.created) (sole : venue.lobby.Sole)
    {moves : List Move} (seemly : venue.SeemlyRun moves) : (venue.run moves).lobby.Sole := by
  induction moves generalizing venue with
  | nil => exact sole
  | cons move rest inductionHypothesis =>
      exact inductionHypothesis (kept_step kept move) (sole_step kept sole seemly.1) seemly.2

end Venue

/-! ## Logins -/

namespace Lobby

variable {settings : Settings} {created : Nat} {lobby : Lobby} {id : UserId}

/-- A login makes those leave who are logged in under the name of the newcomer from its
host, and nobody else. -/
structure Replaces (lobby : Lobby) (newcomer : User) (after : Lobby) : Prop where
  gone : ∀ old ∈ lobby.people.present, old.loggedIn = true →
    old.address.host = newcomer.address.host → old.name = newcomer.name →
      old.id ∉ after.people.present.map (·.id) ∧ ∀ game ∈ after.games, old.id ∉ game.members
  stays : ∀ other ∈ lobby.people.present,
    (other.loggedIn = true → other.address.host = newcomer.address.host →
      other.name ≠ newcomer.name) → other.id ∈ after.people.present.map (·.id)

/-- There is one session for each identity: no two users are logged in under one name
from one host, nor any two from one host where hosts may not be shared; a login that
succeeds replaces earlier sessions; and one that is refused changes nothing. -/
structure OnePerIdentity (lobby : Lobby) : Prop where
  sole : lobby.Sole
  replaces : ∀ id, (lobby.login id).result = .ok () →
    ∃ newcomer ∈ lobby.people.present, newcomer.id = id ∧
      lobby.Replaces newcomer (lobby.login id).state
  denied : ∀ id refusal, (lobby.login id).result = .error refusal →
    (lobby.login id).state = lobby

theorem replaces_welcomed {newcomer : User} (kept : lobby.Kept settings created)
    (after : (lobby.welcomed newcomer).state.Kept settings created)
    (registered : newcomer ∈ lobby.people.present) (out : newcomer.loggedIn = false) :
    lobby.Replaces newcomer (lobby.welcomed newcomer).state := by
  refine ⟨fun old there flag host name => ?_, fun other there differs => ?_⟩
  · have another : old.id ≠ newcomer.id := by
      intro same
      rw [List.inj_on_of_nodup_map kept.users_nodup there registered same, out] at flag
      cases flag
    have gone : old.id ∉ (lobby.welcomed newcomer).state.people.present.map (·.id) :=
      fun stays => not_sameHost_of_stays (mem_sameHost.mpr ⟨there, another, flag, host⟩) stays name
    refine ⟨gone, fun game live here => gone ?_⟩
    obtain ⟨user, present, same, -⟩ := after.registered live here
    exact List.mem_map.mpr ⟨user, present, same⟩
  · rw [ids_welcomed]
    refine List.mem_filter.mpr ⟨List.mem_map_of_mem there, decide_eq_true fun isStale => ?_⟩
    obtain ⟨old, sharing, name, same⟩ := mem_stale.mp isStale
    obtain ⟨present, -, flag, host⟩ := mem_sameHost.mp sharing
    obtain rfl := List.inj_on_of_nodup_map kept.users_nodup present there same
    exact differs flag host name

theorem one_per_identity_of_sole (kept : lobby.Kept settings created) (sole : lobby.Sole) :
    lobby.OnePerIdentity := by
  refine ⟨sole, fun id done => ?_, fun id refusal refused => ?_⟩
  · have after := (invariant_kept settings created True).login kept id
    rcases lobby.login_outcomes id with
      ⟨refusal, refused⟩ | ⟨newcomer, registered, same, out, -, -, accepted⟩
    · rw [refused] at done
      cases done
    · rw [accepted] at after ⊢
      exact ⟨newcomer, registered, same, replaces_welcomed kept after registered out⟩
  · rcases lobby.login_outcomes id with ⟨other, denied⟩ | ⟨newcomer, -, -, -, -, -, accepted⟩
    · rw [denied]
      rfl
    · rw [accepted] at refused
      cases refused

theorem sole_empty (settings : Settings) : (Lobby.empty settings).Sole :=
  ⟨fun _ member => (by cases member), fun _ _ member => by cases member⟩

end Lobby

namespace Venue

/-- Whatever happens at a venue where nobody who is logged in says anew who it is, there
is one session for each identity. -/
theorem one_per_identity (settings : Settings) (moves : List Move)
    (seemly : (opened settings).SeemlyRun moves) :
    ((opened settings).run moves).lobby.OnePerIdentity := by
  have opens : (opened settings).lobby.Kept settings (opened settings).created :=
    Lobby.kept_empty settings
  exact Lobby.one_per_identity_of_sole (kept_run opens moves)
    (sole_run opens (Lobby.sole_empty settings) seemly)

/-- Ada and Bo play together, both at one place.  Ada comes again, and is about to log
in. -/
def comeback : List Move :=
  arrival 1 "Ada" ++ arrival 2 "Bo" ++ [.create 1 "duel", .join 2 1] ++
    (arrival 3 "Ada").take 3

/-- Her login makes the earlier session leave, whose game is closed. -/
theorem one_per_identity_comeback :
    (opened {}).SeemlyRun comeback ∧
      ((opened {}).run comeback).lobby.games.map (·.members) = [[1, 2]] ∧
      ((((opened {}).run comeback).lobby.login 3).result = .ok ()) ∧
      ((((opened {}).run comeback).lobby.login 3).state.people.present.map (·.id) = [2, 3]) ∧
      ((opened {}).run comeback).lobby.OnePerIdentity := by
  have seemly : (opened {}).SeemlyRun comeback := by decide +kernel
  exact ⟨seemly, by decide +kernel, by decide +kernel, by decide +kernel,
    one_per_identity {} comeback seemly⟩

end Venue

end Netplay
