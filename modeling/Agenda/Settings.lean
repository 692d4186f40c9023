import Agenda.Digest.Sha2
import Agenda.Text.Integer
import Agenda.Text.Quoted
/-!
# Settings

The settings of the server, read from named variables of its environment.

* `Settings` — the settings.
* `Settings.ofEnvironment` — read them; a variable that is not set has a default.
* `Settings.passwordHash`, `Settings.authEnabled`, `Settings.databaseUrl` — what follows from them.
* `SettingsError` — why they cannot be read.
-/

namespace Agenda

structure Settings where
  host : String := "127.0.0.1"
  port : Int := 7540
  webDirectory : String := "web"
  databaseFile : String := "scheduler.db"
  tasksLimit : Int := 50
  maxUploadSize : Int := 8388608
  signInRateLimit : String := "5/minute"
  password : String := ""
  secretKey : String := ""
  tokenLifetimeHours : Int := 8
deriving DecidableEq

inductive SettingsError
  /-- A variable that must hold an integer holds another text. -/
  | invalidInteger (name value : String)
  | missingSecretKey
deriving DecidableEq

abbrev Environment := String → Option String

namespace Environment

/-- The text of a variable; an empty one counts as set. -/
def text (env : Environment) (name default : String) : String :=
  (env name).getD default

/-- The integer of a variable; an empty one counts as not set. -/
def integer (env : Environment) (name : String) (default : Int) : Except SettingsError Int :=
  match env name with
  | none => .ok default
  | some value =>
      if value = "" then .ok default
      else
        match Text.readInteger value.toList with
        | some n => .ok n
        | none => .error (.invalidInteger name value)

end Environment

namespace Settings

/-- The settings that an environment holds. -/
def ofEnvironment (env : Environment) : Except SettingsError Settings := do
  let port ← env.integer "TODO_PORT" 7540
  let tasksLimit ← env.integer "TODO_TASKS_LIMIT" 50
  let maxUploadSize ← env.integer "TODO_MAX_UPLOAD_SIZE" 8388608
  let tokenLifetimeHours ← env.integer "TODO_TOKEN_TTL_HOURS" 8
  let password := env.text "TODO_PASSWORD" ""
  let secretKey := env.text "TODO_SECRETKEY" ""
  if password ≠ "" ∧ secretKey = "" then .error .missingSecretKey
  else
    pure
      { host := env.text "TODO_HOST" "127.0.0.1"
        port := port
        webDirectory := env.text "TODO_WEBDIR" "web"
        databaseFile := env.text "TODO_DBFILE" "scheduler.db"
        tasksLimit := tasksLimit
        maxUploadSize := maxUploadSize
        signInRateLimit := env.text "TODO_SIGNIN_RATE_LIMIT" "5/minute"
        password := password
        secretKey := secretKey
        tokenLifetimeHours := tokenLifetimeHours }

/-- The digest of a password in hexadecimal; the empty password has an empty one. -/
def hashPassword (password : String) : String :=
  if password = "" then "" else hexText (sha512.digest (Text.utf8 password))

def passwordHash (settings : Settings) : String :=
  hashPassword settings.password

/-- Whether the task routes are guarded. -/
def authEnabled (settings : Settings) : Bool :=
  settings.password != ""

/-- Where the table is kept. -/
def databaseUrl (settings : Settings) : String :=
  "sqlite:///" ++ settings.databaseFile

end Settings

namespace SettingsError

def message : SettingsError → String
  | invalidInteger name value =>
      "invalid integer value in " ++ name ++ ": " ++ String.ofList (Text.quote value.toList)
  | missingSecretKey =>
      "password is set via TODO_PASSWORD, but secret key TODO_SECRETKEY is missing"

end SettingsError

end Agenda
