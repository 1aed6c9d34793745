/-
Module: Netplay.Lobby.Login
Purpose: Who may log in, and leaving the relay.
Main exports:
  Lobby.quit, Lobby.loginFault?, Lobby.hostConflict?, Lobby.stale,
  Lobby.login
-/
import Netplay.Lobby.Play

namespace Netplay.Lobby

/-- Leave the relay, and first any game.  The parting message goes to the user
itself and, if it was logged in, to everyone logged in. -/
def quit (lobby : Lobby) (id : UserId) (message : String) : Step Lobby Unit :=
  match lobby.people.registered? id with
  | none => .refuse lobby (.userNotFound id)
  | some user =>
      let gone := { lobby with people := lobby.people.depart user }
      let left : Lobby × List Letter :=
        if user.game.isSome then
          let step := gone.leave user
          (step.state, step.letters)
        else (gone, [])
      let event := ServerEvent.userQuit (left.1.people.person id) message
      .done left.1
        (left.2 ++ ⟨id, .server event⟩ ::
          (if user.loggedIn then left.1.broadcast event else []))
        ()

/-- What a user's own data have against a login. -/
def loginFault? (rules : ServerSettings) (user : User) : Option LoginFault :=
  if Text.isBlank user.name then some .emptyName
  else if 0 < rules.maxUserName ∧ rules.maxUserName < user.name.length then
    some (.nameTooLong rules.maxUserName)
  else if user.name.toList.any Text.isInvisible then some .illegalName
  else if 0 < rules.maxEmulatorName ∧
      rules.maxEmulatorName < user.emulator.length then
    some (.emulatorTooLong rules.maxEmulatorName)
  else if user.connectionType < 1 ∨ 6 < user.connectionType then
    some (.badConnectionType user.connectionType)
  else if 0 < rules.maxPing ∧ rules.maxPing < user.ping then
    some (.pingTooHigh user.ping rules.maxPing)
  else none

/-- The other users that are logged in from the host of a user. -/
def sameHost (lobby : Lobby) (user : User) : List User :=
  lobby.people.present.filter fun other =>
    other.id ≠ user.id && other.loggedIn &&
      other.address.host = user.address.host

/-- The first other name under which the host of a user is logged in, where
hosts may not be shared. -/
def hostConflict? (lobby : Lobby) (user : User) : Option String :=
  if lobby.server.allowSharedHost then none
  else ((lobby.sameHost user).find? (·.name ≠ user.name)).map (·.name)

/-- Earlier sessions of a user: the same name from the same host. -/
def stale (lobby : Lobby) (user : User) : List UserId :=
  ((lobby.sameHost user).filter (·.name = user.name)).map (·.id)

/-- Make users quit, one after the other. -/
def quitAll (lobby : Lobby) (message : String) :
    List UserId → Lobby × List Letter
  | [] => (lobby, [])
  | id :: rest =>
      let step := lobby.quit id message
      let (final, letters) := step.state.quitAll message rest
      (final, step.letters ++ letters)

/-- Complete a login once name, emulator, connection type and ping are known.
Earlier sessions of the same user are replaced. -/
def login (lobby : Lobby) (id : UserId) : Step Lobby Unit :=
  match lobby.people.registered? id with
  | none => .refuse lobby (.userNotFound id)
  | some user =>
      if user.loggedIn then .refuse lobby (.alreadyLoggedIn id)
      else
        match loginFault? lobby.server user with
        | some fault => .refuse lobby (.loginDenied fault)
        | none =>
            match lobby.hostConflict? user with
            | some name => .refuse lobby (.loginDenied (.hostInUse name))
            | none =>
                let (cleared, letters) :=
                  lobby.quitAll "Reconnected" (lobby.stale user)
                let next :=
                  { cleared with people := cleared.people.update id (·.logIn) }
                let welcome := lobby.server.welcomeMessages.map fun message =>
                  Letter.mk id (.user (.infoMessage "server" message))
                .done next
                  (letters ++ ⟨id, .user .connected⟩ ::
                    (next.broadcast (.userJoined (next.people.person id)) ++
                      welcome))
                  ()

end Netplay.Lobby
