import Sam.Apps.AutoDemo
import Sam.Apps.DemoHandler
import Sam.Library.Options

/-!
# Command lines (`AutoDemoConfig::parse`, `sam-demo-app`)

* `parseUnsigned` — `str::parse::<u64>`; `usize` is taken to have 64 bits.
* `AutoDemoConfig.parse` — SAM's command line; `parse_iff` says which are accepted, what they mean
  and what the error is for the others.
* `expressible_iff` — the configurations a command line can express, and one for each.
* `DemoHandler.ofArgs` — the command line of a demo application.
-/

namespace Sam

open Options

/-- `Duration::from_secs`. -/
def fromSecs (seconds : Nat) : Duration := seconds * 1000000000

/-- `Duration::from_millis`. -/
def fromMillis (milliseconds : Nat) : Duration := milliseconds * 1000000

/-- Digits after an optional `+`, without overflow. -/
def parseUnsigned (s : String) : Option Nat :=
  let digits :=
    match s.toList with
    | '+' :: digits => digits
    | digits => digits
  if digits ≠ [] ∧ digits.all Char.isDigit ∧ Nat.ofDigitChars 10 digits 0 < 2 ^ 64 then
    some (Nat.ofDigitChars 10 digits 0)
  else none

theorem parseUnsigned_lt {s : String} {n : Nat} (h : parseUnsigned s = some n) : n < 2 ^ 64 := by
  unfold parseUnsigned at h
  dsimp only at h
  split at h
  all_goals
    split at h
    · rename_i hd
      cases h
      exact hd.2.2
    · cases h

/-- Every number that fits is read back. -/
theorem parseUnsigned_repr {n : Nat} (hn : n < 2 ^ 64) : parseUnsigned n.repr = some n := by
  have hdigit : ∀ c ∈ Nat.toDigits 10 n, c.isDigit := fun c hc =>
    Nat.isDigit_of_mem_toDigits (by decide) (by decide) hc
  have hplus : ∀ digits, Nat.toDigits 10 n ≠ '+' :: digits := by
    intro digits h
    have := hdigit '+' (h ▸ List.mem_cons_self ..)
    exact absurd this (by decide)
  unfold parseUnsigned
  rw [Nat.toList_repr]
  dsimp only
  split
  · rename_i digits h
    exact absurd h (hplus digits)
  · rw [Nat.ofDigitChars_ten_toDigits, if_pos
      ⟨Nat.toDigits_ne_nil, List.all_eq_true.mpr hdigit, hn⟩]

/-! ## SAM's command line -/

/-- `parse_value`, for the type that `fromStr` reads. -/
def parseValue (fromStr : String → Option Nat) (flag : String) (value : Option String) :
    Except AutoDemoError Nat :=
  match value with
  | none => .error (.missingValue flag)
  | some value =>
    match fromStr value with
    | none => .error (.invalidValue flag)
    | some n => .ok n

namespace AutoDemoConfig

/-- What `parse` starts with. -/
def initial : AutoDemoConfig where
  enabled := false
  showcase := false
  expectedApps := 3
  timeout := fromSecs 15
  hold := fromMillis 1000

/-- The loop of `parse`. -/
def parseFrom (config : AutoDemoConfig) : List String → Except AutoDemoError AutoDemoConfig
  | [] => .ok config
  | argument :: args =>
    if argument = "--auto-demo" then parseFrom { config with enabled := true } args
    else if argument = "--auto-showcase" then
      parseFrom { config with enabled := true, showcase := true } args
    else if argument = "--expected-apps" then
      match parseValue parseUnsigned argument args.head? with
      | .error e => .error e
      | .ok expectedApps => parseFrom { config with expectedApps := expectedApps } args.tail
    else if argument = "--auto-timeout-secs" then
      match parseValue parseUnsigned argument args.head? with
      | .error e => .error e
      | .ok seconds => parseFrom { config with timeout := fromSecs seconds } args.tail
    else if argument = "--auto-hold-ms" then
      match parseValue parseUnsigned argument args.head? with
      | .error e => .error e
      | .ok milliseconds => parseFrom { config with hold := fromMillis milliseconds } args.tail
    else .error (.unknownArgument argument)
termination_by args => args.length
decreasing_by all_goals simp only [List.length_cons, List.length_tail]; omega

def parse (args : List String) : Except AutoDemoError AutoDemoConfig := parseFrom initial args

/-- A number as the value of an option. -/
def number (set : Nat → AutoDemoConfig → AutoDemoConfig) : Kind AutoDemoConfig :=
  .valued fun value => (parseUnsigned value).map set

/-- The options of SAM. -/
def options (argument : String) : Kind AutoDemoConfig :=
  if argument = "--auto-demo" then .plain fun config => { config with enabled := true }
  else if argument = "--auto-showcase" then
    .plain fun config => { config with enabled := true, showcase := true }
  else if argument = "--expected-apps" then
    number fun expectedApps config => { config with expectedApps := expectedApps }
  else if argument = "--auto-timeout-secs" then
    number fun seconds config => { config with timeout := fromSecs seconds }
  else if argument = "--auto-hold-ms" then
    number fun milliseconds config => { config with hold := fromMillis milliseconds }
  else .unknown

end AutoDemoConfig

/-- The error `parse` reports for a fault. -/
def AutoDemoError.ofFault : Fault → AutoDemoError
  | .unknown word => .unknownArgument word
  | .missing word => .missingValue word
  | .invalid word => .invalidValue word

namespace AutoDemoConfig

/-- Reading an option with a number. -/
theorem read_number {set : Nat → AutoDemoConfig → AutoDemoConfig} {word : String}
    (h : options word = number set) (config : AutoDemoConfig) (args : List String) :
    (readWords options config (word :: args)).mapError AutoDemoError.ofFault =
      match parseValue parseUnsigned word args.head? with
      | .error e => .error e
      | .ok n => (readWords options (set n config) args.tail).mapError AutoDemoError.ofFault := by
  cases args with
  | nil =>
    rw [readWords, h]
    rfl
  | cons value args =>
    rw [readWords, h]
    simp only [number, parseValue, List.head?_cons, List.tail_cons]
    cases parseUnsigned value <;> rfl

/-- The loop reads the options of SAM. -/
theorem parseFrom_eq_read (config : AutoDemoConfig) (args : List String) :
    parseFrom config args = (readWords options config args).mapError AutoDemoError.ofFault := by
  fun_induction parseFrom config args with
  | case1 => rfl
  | case2 config args ih => rw [ih, readWords, options, if_pos rfl]
  | case3 config args _ ih => rw [ih, readWords]; rfl
  | case4 config args _ _ e he => rw [read_number rfl]; simp only [he]
  | case5 config args _ _ n hn ih => rw [ih, read_number rfl]; simp only [hn]
  | case6 config args _ _ _ e he => rw [read_number rfl]; simp only [he]
  | case7 config args _ _ _ n hn ih => rw [ih, read_number rfl]; simp only [hn]
  | case8 config args _ _ _ _ e he => rw [read_number rfl]; simp only [he]
  | case9 config args _ _ _ _ n hn ih => rw [ih, read_number rfl]; simp only [hn]
  | case10 config argument args h₁ h₂ h₃ h₄ h₅ =>
    rw [readWords, options, if_neg h₁, if_neg h₂, if_neg h₃, if_neg h₄, if_neg h₅]
    rfl

theorem parse_ok_iff {args : List String} {config : AutoDemoConfig} :
    parse args = .ok config ↔
      ∃ items : List (Item options), args = words items ∧ config = apply items initial := by
  rw [← readWords_ok_iff, parse, parseFrom_eq_read]
  cases readWords options initial args <;> simp [Except.mapError]

theorem parse_error_iff {args : List String} {e : AutoDemoError} :
    parse args = .error e ↔ ∃ fault, Broken options args fault ∧ e = .ofFault fault := by
  simp only [← readWords_error_iff (s := initial)]
  rw [parse, parseFrom_eq_read]
  cases readWords options initial args <;> simp [Except.mapError, eq_comm]

/-- **SAM's command line.**  It is accepted exactly if it is a sequence of options, each with its
    value, which then set the configuration one after the other; otherwise the error names the first
    word that is no option, or the first option that has no value or a bad one. -/
theorem parse_iff (args : List String) :
    (∀ config, AutoDemoConfig.parse args = .ok config ↔
      ∃ items : List (Item options), args = words items ∧ config = apply items initial) ∧
    ∀ e, AutoDemoConfig.parse args = .error e ↔
      ∃ (items : List (Item options)) (rest : List String) (fault : Fault),
        args = words items ++ rest ∧ Faulty options rest fault ∧ e = .ofFault fault := by
  refine ⟨fun config => parse_ok_iff, fun e => parse_error_iff.trans ?_⟩
  constructor
  · rintro ⟨fault, ⟨items, rest, hargs, hf⟩, he⟩
    exact ⟨items, rest, fault, hargs, hf, he⟩
  · rintro ⟨items, rest, fault, hargs, hf, he⟩
    exact ⟨fault, ⟨items, rest, hargs, hf⟩, he⟩

/-! ## What can be configured -/

/-- The numbers are those of a command line, and the showcase is a demonstration. -/
structure Expressible (config : AutoDemoConfig) : Prop where
  enabled : config.showcase = true → config.enabled = true
  expectedApps : config.expectedApps < 2 ^ 64
  timeout : ∃ seconds < 2 ^ 64, config.timeout = fromSecs seconds
  hold : ∃ milliseconds < 2 ^ 64, config.hold = fromMillis milliseconds

theorem expressible_initial : Expressible initial where
  enabled h := by cases h
  expectedApps := by decide
  timeout := ⟨15, by decide, rfl⟩
  hold := ⟨1000, by decide, rfl⟩

/-- An option with a number, read. -/
theorem number_reads {set : Nat → AutoDemoConfig → AutoDemoConfig} {value : String}
    {f : AutoDemoConfig → AutoDemoConfig}
    (h : (parseUnsigned value).map set = some f) : ∃ n < 2 ^ 64, f = set n := by
  obtain ⟨n, hn, rfl⟩ := Option.map_eq_some_iff.mp h
  exact ⟨n, parseUnsigned_lt hn, rfl⟩

/-- Every option keeps the configuration expressible. -/
theorem Expressible.update {config : AutoDemoConfig} {ws : List String}
    {f : AutoDemoConfig → AutoDemoConfig} (h : Expressible config) (hr : Reads options ws f) :
    Expressible (f config) := by
  cases hr with
  | plain hk =>
    unfold options number at hk
    split at hk
    · cases hk
      exact { h with enabled := fun _ => rfl }
    split at hk
    · cases hk
      exact { h with enabled := fun _ => rfl }
    split at hk
    · cases hk
    split at hk
    · cases hk
    split at hk <;> cases hk
  | valued hk hv =>
    unfold options number at hk
    split at hk
    · cases hk
    split at hk
    · cases hk
    split at hk
    · cases hk
      obtain ⟨n, hn, rfl⟩ := number_reads hv
      exact { h with expectedApps := hn }
    split at hk
    · cases hk
      obtain ⟨n, hn, rfl⟩ := number_reads hv
      exact { h with timeout := ⟨n, hn, rfl⟩ }
    split at hk
    · cases hk
      obtain ⟨n, hn, rfl⟩ := number_reads hv
      exact { h with hold := ⟨n, hn, rfl⟩ }
    · cases hk

theorem Expressible.apply {config : AutoDemoConfig} (h : Expressible config)
    (items : List (Item options)) : Expressible (apply items config) := by
  induction items generalizing config with
  | nil => exact h
  | cons item items ih => exact ih (h.update item.reads)

/-- A command line for a configuration. -/
def arguments (enabled showcase : Bool) (expectedApps seconds milliseconds : Nat) : List String :=
  (if showcase then ["--auto-showcase"] else if enabled then ["--auto-demo"] else []) ++
    ["--expected-apps", toString expectedApps, "--auto-timeout-secs", toString seconds,
      "--auto-hold-ms", toString milliseconds]

/-- The command line that spells a configuration out. -/
def commandLine (config : AutoDemoConfig) : List String :=
  arguments config.enabled config.showcase config.expectedApps (config.timeout / fromSecs 1)
    (config.hold / fromMillis 1)

theorem parse_arguments {enabled showcase : Bool} {expectedApps seconds milliseconds : Nat}
    (h : showcase = true → enabled = true) (ha : expectedApps < 2 ^ 64) (hs : seconds < 2 ^ 64)
    (hm : milliseconds < 2 ^ 64) :
    parse (arguments enabled showcase expectedApps seconds milliseconds) =
      .ok ⟨enabled, showcase, expectedApps, fromSecs seconds, fromMillis milliseconds⟩ := by
  have hnumbers : ∀ config : AutoDemoConfig,
      parseFrom config ["--expected-apps", toString expectedApps, "--auto-timeout-secs",
        toString seconds,
        "--auto-hold-ms", toString milliseconds] =
      .ok { config with
        expectedApps := expectedApps, timeout := fromSecs seconds,
        hold := fromMillis milliseconds } := by
    intro config
    simp [parseFrom, parseValue, parseUnsigned_repr ha, parseUnsigned_repr hs,
      parseUnsigned_repr hm]
  unfold parse arguments
  cases showcase with
  | true =>
    rw [if_pos rfl, List.singleton_append, parseFrom, if_neg (by decide), if_pos rfl, hnumbers,
      h rfl]
  | false =>
    cases enabled with
    | true => rw [if_neg (by decide), if_pos rfl, List.singleton_append, parseFrom, if_pos rfl,
      hnumbers]; rfl
    | false => rw [if_neg (by decide), if_neg (by decide), List.nil_append, hnumbers]; rfl

/-- What is expressible is read back from the command line that spells it out. -/
theorem Expressible.parse_commandLine {config : AutoDemoConfig} (h : Expressible config) :
    parse (commandLine config) = .ok config := by
  obtain ⟨henabled, happs, ⟨seconds, hs, htimeout⟩, milliseconds, hm, hhold⟩ := h
  have hseconds : config.timeout / fromSecs 1 = seconds := by
    rw [htimeout]
    exact Nat.mul_div_cancel seconds (by decide)
  have hmilliseconds : config.hold / fromMillis 1 = milliseconds := by
    rw [hhold]
    exact Nat.mul_div_cancel milliseconds (by decide)
  unfold commandLine
  rw [hseconds, hmilliseconds, parse_arguments henabled happs hs hm, ← htimeout, ← hhold]

/-- **What a command line can express** is what is read back from the command line that spells it
    out. -/
theorem expressible_iff (config : AutoDemoConfig) :
    ((∃ args, AutoDemoConfig.parse args = .ok config) ↔ Expressible config) ∧
      (AutoDemoConfig.parse (commandLine config) = .ok config ↔ Expressible config) := by
  have hparsed : ∀ args, AutoDemoConfig.parse args = .ok config → Expressible config := by
    intro args h
    obtain ⟨items, -, rfl⟩ := parse_ok_iff.mp h
    exact expressible_initial.apply items
  constructor
  · exact ⟨fun ⟨args, h⟩ => hparsed args h, fun h => ⟨commandLine config, h.parse_commandLine⟩⟩
  · exact ⟨hparsed _, Expressible.parse_commandLine⟩

/-- A showcase for one application, spelled out. -/
example : commandLine ⟨true, true, 1, fromSecs 15, fromMillis 250⟩ = ["--auto-showcase",
    "--expected-apps", "1", "--auto-timeout-secs", "15", "--auto-hold-ms", "250"] := by decide

end AutoDemoConfig

/-! ## The command line of a demo application -/

/-- The loop of `health_from`. -/
def healthFromLoop (health : HealthState) : List String → HealthState
  | [] => health
  | argument :: args =>
    if argument = "--failed" then .failed
    else if argument = "--degraded" then healthFromLoop .degraded args
    else healthFromLoop health args

def healthFrom (args : List String) : HealthState := healthFromLoop .healthy args

def rejectWorkingFrom (args : List String) : Bool := args.any (· = "--reject-working")

def hasFlag (args : List String) (flag : String) : Bool := args.any (· = flag)

def exitAfter : List String → Except String (Option Duration)
  | [] => .ok none
  | argument :: args =>
    if argument = "--exit-after-ms" then
      match args.head? with
      | none => .error "--exit-after-ms requires a millisecond value"
      | some value =>
        match parseUnsigned value with
        | none => .error ("invalid --exit-after-ms value: " ++ value)
        | some milliseconds => .ok (some (fromMillis milliseconds))
    else exitAfter args

/-- The handler `main` makes of a command line, and the delay after which it loses power, or the
    error with which it exits.  Only telemetry knows `--reject-working-once`
    and `--exit-after-ms`. -/
def DemoHandler.ofArgs (name : String) (args : List String) :
    Except String (DemoHandler × Option Duration) :=
  let handler := DemoHandler.new name (rejectWorkingFrom args) (healthFrom args)
  if name = "telemetry" then
    match exitAfter args with
    | .error error => .error error
    | .ok delay => .ok (handler.withRejectWorkingOnce (hasFlag args "--reject-working-once"), delay)
  else .ok (handler, none)

/-- A process that is to reject was told so. -/
theorem ofArgs_told {name : String} {args : List String} {self : DemoHandler}
    {delay : Option Duration} (h : DemoHandler.ofArgs name args = .ok (self, delay)) :
    (self.rejectWorking = true ↔ "--reject-working" ∈ args) ∧
      (self.rejectWorkingOnce = true ↔ name = "telemetry" ∧ "--reject-working-once" ∈ args) := by
  unfold DemoHandler.ofArgs at h
  dsimp only at h
  split at h
  · rename_i hname
    split at h
    · cases h
    · cases h
      simp [DemoHandler.withRejectWorkingOnce, DemoHandler.new, rejectWorkingFrom, hasFlag, hname]
  · rename_i hname
    cases h
    simp [DemoHandler.new, rejectWorkingFrom, hname]

end Sam
