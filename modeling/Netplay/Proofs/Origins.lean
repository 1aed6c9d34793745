/-
Module: Netplay.Proofs.Origins
Purpose: Where the entry of a registered user comes from in one move: it was there
  before, nobody is logged in under it, or its login has just been accepted.
Main exports:
  Roster.Outside, Lobby.Tidy, Lobby.Origin, Lobby.origin_login, Venue.origin_step
-/
import Netplay.Proofs.Observers
import Netplay.Proofs.Turnout

namespace Netplay

namespace Roster

variable {people : Roster} {id : UserId} {user : User}

/-- Nobody is logged in under the number. -/
def Outside (people : Roster) (id : UserId) : Prop :=
  (people.registered? id).all (fun user => !user.loggedIn) = true

instance (people : Roster) (id : UserId) : Decidable (people.Outside id) :=
  inferInstanceAs (Decidable (_ = true))

theorem Outside.loggedIn (outside : people.Outside id)
    (nodup : (people.present.map (·.id)).Nodup) (registered : user ∈ people.present)
    (same : user.id = id) : user.loggedIn = false := by
  rw [Outside, registered?, ← same, find?_key nodup registered] at outside
  simpa using outside

/-- If whoever is known under the number is not logged in, nobody is. -/
theorem outside_of_person (out : (people.person id).loggedIn = false) : people.Outside id := by
  unfold Outside
  cases found : people.registered? id with
  | none => rfl
  | some user =>
      rw [person, find?, found] at out
      simpa using out

/-- A registered user is as it was, or is the one who has been changed. -/
theorem mem_present_update {change : User → User}
    (member : user ∈ (people.update id change).present) :
    ∃ old ∈ people.present, user = if old.id = id then change old else old := by
  unfold update at member
  split at member
  · obtain ⟨old, here, made⟩ := List.mem_map.mp member
    exact ⟨old, here, made.symm⟩
  · rename_i unregistered
    refine ⟨user, member, (if_neg fun same => unregistered ?_).symm⟩
    exact List.any_eq_true.mpr ⟨user, member, decide_eq_true same⟩

end Roster

namespace Lobby

variable {lobby : Lobby} {move : Venue.Move} {user : User}

/-- The move describes nobody who is logged in. -/
def Tidy (lobby : Lobby) : Venue.Move → Prop
  | .introduce user _ _ _ => lobby.people.Outside user
  | .measure user _ => lobby.people.Outside user
  | _ => True

/-- Where a registered user comes from in one move. -/
inductive Origin (lobby : Lobby) (move : Venue.Move) (user : User) : Prop where
  /-- It was registered before, and is the same but for where it plays. -/
  | stayed {old : User} (registered : old ∈ lobby.people.present) (same : user.card = old.card)
  /-- It is not logged in, and neither was anybody under its number. -/
  | outside (out : user.loggedIn = false)
      (nobody : ∀ old ∈ lobby.people.present, old.id = user.id → old.loggedIn = false)
  /-- Its login has been accepted. -/
  | admitted {old : User} (registered : old ∈ lobby.people.present)
      (out : old.loggedIn = false) (logs : move = .login old.id)
      (faultless : loginFault? lobby.server old = none)
      (alone : lobby.hostConflict? old = none)
      (accepted : lobby.login old.id = lobby.welcomed old)
      (same : user.card = old.logIn.card)

/-- Someone is described anew under whose number nobody is logged in. -/
theorem origin_describes {change : User → User} {id : UserId}
    (nodup : (lobby.people.present.map (·.id)).Nodup) (outside : lobby.people.Outside id)
    (number : ∀ user, (change user).id = user.id)
    (flag : ∀ user, (change user).loggedIn = user.loggedIn)
    (member : user ∈ (lobby.people.update id change).present) : lobby.Origin move user := by
  obtain ⟨old, registered, made⟩ := Roster.mem_present_update member
  split at made
  · rename_i same
    have out := outside.loggedIn nodup registered same
    refine .outside (made ▸ (flag old).trans out) fun other present equal => ?_
    have numbers : other.id = old.id := equal.trans (made ▸ number old)
    rw [List.inj_on_of_nodup_map nodup present registered numbers]
    exact out
  · exact .stayed registered (made ▸ rfl)

/-- Someone logs in, or tries to. -/
theorem origin_login {id : UserId} (nodup : (lobby.people.present.map (·.id)).Nodup)
    (member : user ∈ (lobby.login id).state.people.present) :
    lobby.Origin (.login id) user := by
  rcases lobby.login_outcomes id with
    ⟨refusal, refused⟩ | ⟨newcomer, registered, rfl, out, faultless, alone, accepted⟩
  · rw [refused] at member
    exact .stayed member rfl
  · rw [accepted] at member
    obtain ⟨between, cleared, made⟩ := Roster.mem_present_update member
    obtain ⟨old, present, same⟩ := List.mem_map.mp
      ((lobby.thins_quitAll "Reconnected" (lobby.stale newcomer)).cards.subset
        (List.mem_map_of_mem cleared))
    split at made
    · rename_i itself
      have numbers : old.id = newcomer.id :=
        (User.lasting_id.of_card same).trans itself
      obtain rfl := List.inj_on_of_nodup_map nodup present registered numbers
      refine .admitted registered out rfl faultless alone accepted ?_
      rw [made]
      exact congrArg (fun card : User => { card with loggedIn := true }) same.symm
    · exact .stayed present (made ▸ same.symm)

end Lobby

namespace Venue

variable {venue : Venue} {move : Move} {user : User}

/-- Every registered user comes from somewhere. -/
theorem origin_step (nodup : (venue.lobby.people.present.map (·.id)).Nodup)
    (tidy : venue.lobby.Tidy move) (member : user ∈ (venue.step move).lobby.people.present) :
    venue.lobby.Origin move user := by
  by_cases plain : move.Plain
  · obtain ⟨old, registered, same⟩ := List.mem_map.mp
      ((venue.thins_step plain).cards.subset (List.mem_map_of_mem member))
    exact .stayed registered same.symm
  · cases move with
    | connect address protocol =>
        rcases venue.lobby.connect_cases address protocol with
          ⟨refusal, refused⟩ | ⟨id, counter, -, found, connected⟩
        · rw [step, refused] at member
          exact .stayed member rfl
        · rw [step, connected] at member
          rcases List.mem_append.mp member with old | new
          · exact .stayed old rfl
          · rw [List.mem_singleton.mp new]
            refine .outside rfl fun other present same => ?_
            have fresh := (UserId.firstFree_eq_some found).2
            exact absurd (List.mem_map.mpr ⟨other, present, same⟩) fresh
    | introduce id name emulator connectionType =>
        refine Lobby.origin_describes nodup tidy ?_ ?_ member
        · exact fun _ => rfl
        · exact fun _ => rfl
    | measure id ping =>
        refine Lobby.origin_describes nodup tidy ?_ ?_ member
        · exact fun _ => rfl
        · exact fun _ => rfl
    | login id => exact Lobby.origin_login nodup member
    | _ => exact absurd trivial plain

end Venue

end Netplay
