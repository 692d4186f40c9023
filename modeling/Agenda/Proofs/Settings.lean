import Agenda.Proofs.PartialFunctions
import Agenda.Proofs.Text.Integers
import Agenda.Settings
/-!
# The settings that an environment describes

Which environments have settings, which settings these are, and what is told about the others.

* `Variable` — a setting with the variable that it is read from; `integerVariables`, `textVariables` — all of them.
* `Environment.Gives` — the integer that a variable gives.
* `Environment.Describes` — the settings that an environment describes; `Settings.ofEnvironment_eq_ok_iff` — they
  are the ones that are read.
* `Environment.Fault` — what is wrong with an environment; `Environment.fault_of_ofEnvironment` — it is what is told.
* `Settings.exists_ofEnvironment_iff` — the environments that have settings.
* `Settings.hashPassword_eq_empty_iff` — only the empty password has an empty digest.
-/

namespace Agenda

/-! ## Variables -/

/-- A setting, with the variable of the environment that it is read from and its default. -/
structure Variable (α : Type) where
  name : String
  default : α
  setting : Settings → α

namespace Variable

def port : Variable Int := ⟨"TODO_PORT", 7540, Settings.port⟩

def tasksLimit : Variable Int := ⟨"TODO_TASKS_LIMIT", 50, Settings.tasksLimit⟩

/-- Eight mebibytes by default. -/
def maxUploadSize : Variable Int := ⟨"TODO_MAX_UPLOAD_SIZE", 8 * 2 ^ 20, Settings.maxUploadSize⟩

def tokenLifetimeHours : Variable Int := ⟨"TODO_TOKEN_TTL_HOURS", 8, Settings.tokenLifetimeHours⟩

end Variable

/-- The variables that hold an integer, in the order in which they are read. -/
def integerVariables : List (Variable Int) :=
  [.port, .tasksLimit, .maxUploadSize, .tokenLifetimeHours]

/-- The variables that hold a text. -/
def textVariables : List (Variable String) :=
  [⟨"TODO_HOST", "127.0.0.1", Settings.host⟩, ⟨"TODO_WEBDIR", "web", Settings.webDirectory⟩,
    ⟨"TODO_DBFILE", "scheduler.db", Settings.databaseFile⟩,
    ⟨"TODO_SIGNIN_RATE_LIMIT", "5/minute", Settings.signInRateLimit⟩,
    ⟨"TODO_PASSWORD", "", Settings.password⟩, ⟨"TODO_SECRETKEY", "", Settings.secretKey⟩]

namespace Environment

/-- The variable is not set, or it is empty. -/
def Lacks (env : Environment) (name : String) : Prop :=
  env name = none ∨ env name = some ""

instance (env : Environment) (name : String) : Decidable (env.Lacks name) :=
  inferInstanceAs (Decidable (_ ∨ _))

/-- The variable gives an integer: its default when there is nothing in it, and otherwise the one that its text
denotes. -/
inductive Gives (env : Environment) (v : Variable Int) : Int → Prop
  | default (hlacks : env.Lacks v.name) : Gives env v v.default
  | written {value : String} {n : Int} (hvalue : env v.name = some value)
      (htext : Text.IntegerText value.toList n) : Gives env v n

/-- The variable is the first of those that hold an integer which gives none. -/
def FirstOffending (env : Environment) (v : Variable Int) : Prop :=
  ∃ early late, integerVariables = early ++ v :: late ∧ (∀ u ∈ early, ∃ n, env.Gives u n) ∧ ∀ n, ¬ env.Gives v n

/-- What is wrong with an environment.  A key that is missing is told about only when every integer is given. -/
inductive Fault (env : Environment) : SettingsError → Prop
  | integer {v : Variable Int} {value : String} (hfirst : env.FirstOffending v) (hvalue : env v.name = some value) :
      Fault env (.invalidInteger v.name value)
  | missingKey (hintegers : ∀ v ∈ integerVariables, ∃ n, env.Gives v n) (hpassword : ¬ env.Lacks "TODO_PASSWORD")
      (hkey : env.Lacks "TODO_SECRETKEY") : Fault env .missingSecretKey

/-- The settings are those of the environment: every integer is the one that its variable gives, every text is in its
variable or by default, and there is a key if there is a password. -/
structure Describes (env : Environment) (settings : Settings) : Prop where
  integers : ∀ v ∈ integerVariables, env.Gives v (v.setting settings)
  texts : ∀ v ∈ textVariables, v.setting settings = (env v.name).getD v.default
  key : settings.password ≠ "" → settings.secretKey ≠ ""

variable {env : Environment} {v : Variable Int}

/-! ## One variable -/

theorem text_eq_empty_iff {name : String} : env.text name "" = "" ↔ env.Lacks name := by
  unfold text Lacks
  cases env name with
  | none => simp
  | some value => simp

/-- The empty text denotes no integer. -/
theorem not_integerText_nil {n : Int} : ¬ Text.IntegerText [] n := by
  rw [← Text.readInteger_eq_some_iff]
  intro h
  cases h

theorem integer_eq_ok_iff {n : Int} : env.integer v.name v.default = .ok n ↔ env.Gives v n := by
  unfold integer
  constructor
  · intro h
    split at h
    · next hnone =>
        obtain rfl := Except.ok.inj h
        exact .default (Or.inl hnone)
    · next value hvalue =>
        split at h
        · next hempty =>
            subst hempty
            obtain rfl := Except.ok.inj h
            exact .default (Or.inr hvalue)
        · split at h
          · next m hm =>
              obtain rfl := Except.ok.inj h
              exact .written hvalue (Text.readInteger_eq_some_iff.1 hm)
          · cases h
  · intro h
    cases h with
    | default hlacks =>
        rcases hlacks with hnone | hempty
        · simp only [hnone]
        · simp only [hempty, if_true]
    | @written value n hvalue htext =>
        have hne : value ≠ "" := by
          rintro rfl
          exact not_integerText_nil htext
        simp only [hvalue, if_neg hne, Text.readInteger_eq_some_iff.2 htext]

/-- A variable that gives no integer is set, and it is told about with its text. -/
theorem integer_eq_error {cause : SettingsError} (h : env.integer v.name v.default = .error cause) :
    (∀ n, ¬ env.Gives v n) ∧ ∃ value, env v.name = some value ∧ cause = .invalidInteger v.name value := by
  constructor
  · intro n hn
    rw [integer_eq_ok_iff.2 hn] at h
    cases h
  · unfold integer at h
    split at h
    · cases h
    · next value hvalue =>
        split at h
        · cases h
        · split at h
          · cases h
          · exact ⟨value, hvalue, (Except.error.inj h).symm⟩

/-- A variable gives one integer only. -/
theorem Gives.unique {n m : Int} (hn : env.Gives v n) (hm : env.Gives v m) : n = m :=
  Except.ok.inj ((integer_eq_ok_iff.2 hn).symm.trans (integer_eq_ok_iff.2 hm))

/-- An integer of at most as many digits as may be read is given by a variable that holds its decimal text. -/
theorem gives_of_signedDecimal {n : Int} (hn : (Text.decimal n.natAbs).length ≤ Text.maxIntegerDigits)
    (hvalue : env v.name = some (String.ofList (Text.signedDecimal n))) : env.Gives v n := by
  refine .written hvalue ?_
  rw [String.toList_ofList]
  exact Text.integerText_signedDecimal hn

/-! ## All variables -/

/-- When reading on from a variable fails after the variables before it have given their integers, then this variable
is the first that gives none, or else it gives one, too, and what comes after it fails. -/
theorem fault_of_bind {early late : List (Variable Int)} {cause : SettingsError}
    {f : Int → Except SettingsError Settings} (hsplit : integerVariables = early ++ v :: late)
    (hearly : ∀ u ∈ early, ∃ n, env.Gives u n) (h : env.integer v.name v.default >>= f = .error cause) :
    env.Fault cause ∨ (∀ u ∈ early ++ [v], ∃ n, env.Gives u n) ∧ ∃ n, f n = .error cause := by
  rcases bind_eq_error_iff.1 h with herror | ⟨n, hn, hrest⟩
  · obtain ⟨hnone, value, hvalue, rfl⟩ := integer_eq_error herror
    exact Or.inl (.integer ⟨early, late, hsplit, hearly, hnone⟩ hvalue)
  · refine Or.inr ⟨List.forall_mem_append.2 ⟨hearly, ?_⟩, n, hrest⟩
    rw [List.forall_mem_singleton]
    exact ⟨n, integer_eq_ok_iff.1 hn⟩

/-- What is told about an environment without settings is wrong with it. -/
theorem fault_of_ofEnvironment {cause : SettingsError} (h : Settings.ofEnvironment env = .error cause) :
    env.Fault cause := by
  have hnone : ∀ u ∈ ([] : List (Variable Int)), ∃ n, env.Gives u n := by simp
  unfold Settings.ofEnvironment at h
  rcases fault_of_bind rfl hnone h with hfault | ⟨hport, port, h⟩
  · exact hfault
  rcases fault_of_bind rfl hport h with hfault | ⟨htasks, tasksLimit, h⟩
  · exact hfault
  rcases fault_of_bind rfl htasks h with hfault | ⟨hupload, maxUploadSize, h⟩
  · exact hfault
  rcases fault_of_bind rfl hupload h with hfault | ⟨hall, tokenLifetimeHours, h⟩
  · exact hfault
  simp only at h
  split at h
  · next hmissing =>
      obtain rfl := Except.error.inj h
      exact .missingKey hall (fun hlacks => hmissing.1 (text_eq_empty_iff.2 hlacks))
        (text_eq_empty_iff.1 hmissing.2)
  · cases h

end Environment

namespace Settings

variable {env : Environment} {settings : Settings}

/-- The settings that are read from an environment are the ones that it describes. -/
theorem ofEnvironment_eq_ok_iff : ofEnvironment env = .ok settings ↔ env.Describes settings := by
  constructor
  · intro h
    unfold ofEnvironment at h
    obtain ⟨port, hport, h⟩ := bind_eq_ok_iff.1 h
    obtain ⟨tasksLimit, htasks, h⟩ := bind_eq_ok_iff.1 h
    obtain ⟨maxUploadSize, hupload, h⟩ := bind_eq_ok_iff.1 h
    obtain ⟨tokenLifetimeHours, htoken, h⟩ := bind_eq_ok_iff.1 h
    obtain ⟨hkey, h⟩ := guard_eq_ok_iff.1 h
    obtain rfl := Except.ok.inj h
    refine ⟨?_, ?_, fun hpassword hempty => hkey ⟨hpassword, hempty⟩⟩
    · simp only [integerVariables, List.forall_mem_cons]
      exact ⟨Environment.integer_eq_ok_iff.1 hport, Environment.integer_eq_ok_iff.1 htasks,
        Environment.integer_eq_ok_iff.1 hupload, Environment.integer_eq_ok_iff.1 htoken, by simp⟩
    · simp only [textVariables, List.forall_mem_cons]
      exact ⟨rfl, rfl, rfl, rfl, rfl, rfl, by simp⟩
  · rintro ⟨hintegers, htexts, hkey⟩
    simp only [integerVariables, List.forall_mem_cons] at hintegers
    simp only [textVariables, List.forall_mem_cons] at htexts
    obtain ⟨hport, htasks, hupload, htoken, -⟩ := hintegers
    obtain ⟨hhost, hweb, hdatabase, hrate, hpassword, hsecret, -⟩ := htexts
    unfold ofEnvironment
    refine bind_eq_ok_iff.2 ⟨_, Environment.integer_eq_ok_iff.2 hport, ?_⟩
    refine bind_eq_ok_iff.2 ⟨_, Environment.integer_eq_ok_iff.2 htasks, ?_⟩
    refine bind_eq_ok_iff.2 ⟨_, Environment.integer_eq_ok_iff.2 hupload, ?_⟩
    refine bind_eq_ok_iff.2 ⟨_, Environment.integer_eq_ok_iff.2 htoken, ?_⟩
    refine guard_eq_ok_iff.2 ⟨?_, ?_⟩
    · rintro ⟨hne, hempty⟩
      exact hkey (hpassword.trans_ne hne) (hsecret.trans hempty)
    · refine congrArg Except.ok ?_
      cases settings
      simp only [Environment.text, mk.injEq]
      exact ⟨hhost.symm, rfl, hweb.symm, hdatabase.symm, rfl, rfl, hrate.symm, hpassword.symm, hsecret.symm, rfl⟩

/-- An environment has settings exactly when each of its integers is given, and no password is without a key. -/
theorem exists_ofEnvironment_iff : (∃ settings, ofEnvironment env = .ok settings)
    ↔ (∀ v ∈ integerVariables, ∃ n, env.Gives v n) ∧ (env.Lacks "TODO_PASSWORD" ∨ ¬ env.Lacks "TODO_SECRETKEY") := by
  constructor
  · rintro ⟨settings, h⟩
    obtain ⟨hintegers, htexts, hkey⟩ := ofEnvironment_eq_ok_iff.1 h
    refine ⟨fun v hv => ⟨_, hintegers v hv⟩, ?_⟩
    simp only [textVariables, List.forall_mem_cons] at htexts
    obtain ⟨-, -, -, -, hpassword, hsecret, -⟩ := htexts
    by_cases hempty : settings.password = ""
    · exact Or.inl (Environment.text_eq_empty_iff.1 (hpassword.symm.trans hempty))
    · exact Or.inr fun hlacks => hkey hempty (hsecret.trans (Environment.text_eq_empty_iff.2 hlacks))
  · rintro ⟨hintegers, hkey⟩
    cases h : ofEnvironment env with
    | ok settings => exact ⟨settings, rfl⟩
    | error cause =>
        exfalso
        cases Environment.fault_of_ofEnvironment h with
        | @integer v value hfirst hvalue =>
            obtain ⟨early, late, hsplit, -, hnone⟩ := hfirst
            obtain ⟨n, hn⟩ := hintegers v (by simp [hsplit])
            exact hnone n hn
        | missingKey _ hpassword hlacks =>
            rcases hkey with hempty | hset
            · exact hpassword hempty
            · exact hset hlacks

/-! ## The digest of the password -/

/-- A digest has the bytes of eight words. -/
theorem digest_ne_nil (message : Bytes) : sha512.digest message ≠ [] := by
  intro h
  have hlength := congrArg List.length h
  simp [Sha2.digest, Sha2.toBigEndian] at hlength

/-- Only the empty password has an empty digest. -/
theorem hashPassword_eq_empty_iff {password : String} : hashPassword password = "" ↔ password = "" := by
  unfold hashPassword
  by_cases hpassword : password = ""
  · simp [hpassword]
  · rw [if_neg hpassword]
    obtain ⟨b, hb⟩ := List.exists_mem_of_ne_nil _ (digest_ne_nil (Text.utf8 password))
    simpa [hpassword, hexText] using ⟨b, hb⟩

end Settings
end Agenda
