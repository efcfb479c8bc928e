import WatchLink.Console.Arguments
import WatchLink.Proofs.Console.Decimals

/-!
# How arguments are told apart

A word that does not begin with a hyphen, and any word behind the argument `--`, is told by its
place. Whatever options stand in front of a command, if a ping can be asked for behind them, then
any other command can be asked for there, of the same server: `exists_introduces_of_opens` and
`parse_of_introduces`.
-/

namespace WatchLink

set_option autoImplicit false

namespace Console

namespace Arguments

section Scanning

variable {level : Level} {progress later : Progress} {argument word : String}
  {front rest behind : List String}

theorem scan_append_of_ends (ended : scan level progress front = .ends later)
    (rest : List String) : scan level progress (front ++ rest) = scan level later rest := by
  induction front generalizing progress with
  | nil =>
      cases ended
      rfl
  | cons argument others ih =>
      simp only [List.cons_append, scan] at ended ⊢
      cases reading : read level argument progress with
      | goOn next =>
          rw [reading] at ended
          exact ih ended
      | enter | help | version | reject =>
          rw [reading] at ended
          cases ended

/-- A level that has been left is not read any further. -/
theorem scan_append_of_left (left : ∀ later, scan level progress front ≠ .ends later)
    (rest : List String) :
    scan level progress (front ++ rest) =
      match scan level progress front with
      | .enters word behind later => .enters word (behind ++ rest) later
      | other => other := by
  induction front generalizing progress with
  | nil => exact (left progress rfl).elim
  | cons argument others ih =>
      simp only [List.cons_append, scan] at left ⊢
      cases reading : read level argument progress with
      | goOn next =>
          rw [reading] at left
          exact ih left
      | enter | help | version | reject => rfl

/-- What makes a word be told by its place. -/
def Placed (level : Level) (progress : Progress) (word : String) : Prop :=
  progress.plain = true ∨
    ¬Hyphened word ∧ level.commands = [] ∧ awaitsValue progress = false

theorem read_of_placed (placed : Placed level progress argument) :
    read level argument progress = goOn (place level argument progress) := by
  unfold read
  rcases placed with plain | ⟨unhyphened, commandless, idle⟩
  · rw [if_pos plain]
  · have unlike : ∀ rest, argument.toList ≠ '-' :: rest := fun rest same =>
      unhyphened (by rw [Hyphened, same]; rfl)
    split
    · rfl
    · simp only [commandless, idle, List.any_nil, Bool.and_false, Bool.false_eq_true, if_false]
      split
      next same => exact (unlike _ same).elim
      next same => exact (unlike _ same).elim
      next same => exact (unlike _ same).elim
      next => rfl

theorem read_of_hyphen_digit {first : Char} {digits : List Char}
    (spelled : argument.toList = '-' :: first :: digits) (digit : first.isDigit = true)
    (optionless : level.parameters = []) (commandless : level.commands = [])
    (options : progress.plain = false) : read level argument progress = .reject := by
  have others : first ≠ '-' ∧ first ≠ 'h' ∧ first ≠ 'V' := by
    refine ⟨?_, ?_, ?_⟩ <;> rintro rfl <;> cases digit
  unfold read
  simp only [options, commandless, List.any_nil, Bool.and_false, Bool.false_eq_true, if_false]
  split
  next same =>
    cases spelled.symm.trans same
    exact (others.1 rfl).elim
  next same =>
    cases spelled.symm.trans same
    exact (others.1 rfl).elim
  next same =>
    cases spelled.symm.trans same
    simp [short, optionless, others]
  next other => exact (other first digits spelled).elim

def holding (positional : Positional) (value : String) : Pending where
  name := positional.name
  kind := positional.kind
  value := some value

theorem read_of_place {positional : Positional} {looked : Progress}
    (placed : Placed level progress argument)
    (there : level.positionals[progress.placed]? = some positional)
    (resolved : resolve progress = some looked) :
    read level argument progress = .goOn { looked with
      pending := some (holding positional argument), placed := looked.placed + 1 } := by
  rw [read_of_placed placed]
  simp only [place, there, resolved, Option.bind_eq_bind, Option.bind_some]
  rfl

theorem resolve_of_holding {positional : Positional} {value : String} (before : Progress)
    (fits : positional.kind.accepts value = true)
    (fresh : before.values.lookup positional.name = none) :
    resolve { before with pending := some (holding positional value) } =
      some { before with
        values := before.values ++ [(positional.name, value)], pending := none } := by
  simp [resolve, holding, take, fits, fresh]

theorem settle_scan_pair {first second : Positional} (places : level.positionals = [first, second])
    (distinct : first.name ≠ second.name) {guarded : Bool} {one two : String}
    (told : guarded = true ∨ ¬Hyphened one ∧ ¬Hyphened two ∧ level.commands = [])
    (fits : first.kind.accepts one = true) (fitsToo : second.kind.accepts two = true) :
    ∃ last, scan level { plain := guarded } [one, two] = .ends last ∧
      settle level last = some [(first.name, one), (second.name, two)] := by
  let heldOne : Progress := { pending := some (holding first one), placed := 1, plain := guarded }
  let lookedOne : Progress := { values := [(first.name, one)], placed := 1, plain := guarded }
  have placedOne : Placed level { plain := guarded } one :=
    told.imp id fun plainly => ⟨plainly.1, plainly.2.2, rfl⟩
  have placedTwo : Placed level heldOne two :=
    told.imp id fun plainly => ⟨plainly.2.1, plainly.2.2, rfl⟩
  have resolvedOne : resolve heldOne = some lookedOne :=
    resolve_of_holding { placed := 1, plain := guarded } fits rfl
  have readOne : read level one { plain := guarded } = .goOn heldOne :=
    read_of_place placedOne (by rw [places]; rfl) rfl
  have readTwo : read level two heldOne = .goOn
      { lookedOne with pending := some (holding second two), placed := 2 } :=
    read_of_place placedTwo (by rw [places]; rfl) resolvedOne
  have other : (second.name == first.name) = false := by simpa using distinct.symm
  have fresh : lookedOne.values.lookup second.name = none := by
    simp [lookedOne, List.lookup_cons, other]
  have resolvedTwo := resolve_of_holding { lookedOne with placed := 2 } fitsToo fresh
  refine ⟨{ lookedOne with pending := some (holding second two), placed := 2 }, ?_, ?_⟩
  · simp only [scan, readOne, readTwo]
  · rw [settle, resolvedTwo, places]
    rfl

end Scanning

/-! ## What stands in front of a command -/

/-- With these options in front, a ping goes to this server. -/
def Opens (front : List String) (host : String) (port : UInt16) (revision : Revision) : Prop :=
  parse (front ++ ["ping"]) = .run { host, port, revision, command := .ping }

instance (front : List String) (host : String) (port : UInt16) (revision : Revision) :
    Decidable (Opens front host port revision) :=
  inferInstanceAs (Decidable (_ = _))

structure Introduces (front : List String) (host : String) (port : UInt16) (revision : Revision)
    (outer : Progress) : Prop where
  ended : scan Usage.top {} front = .ends outer
  options : outer.plain = false
  idle : awaitsValue outer = false
  invokes : ∃ top, resolve outer = some top ∧ ∀ word values,
    invocation word top.values values =
      (command word values).map fun command => { host, port, revision, command }

section Opening

variable {front rest : List String} {host word : String} {port : UInt16} {revision : Revision}
  {invocation : Invocation} {outer progress later : Progress} {level : Level}

theorem eq_some_of_run {found : Option Invocation}
    (runs : (found.map Request.run).getD .reject = .run invocation) : found = some invocation := by
  cases found with
  | none => cases runs
  | some found =>
      cases runs
      rfl

theorem run_of_enter (entered : enter word rest outer = .run invocation) :
    ∃ level last values top, Usage.commands.lookup word = some level ∧
      scan level {} rest = .ends last ∧ settle level last = some values ∧
      resolve outer = some top ∧
      Arguments.invocation word top.values values = some invocation := by
  unfold enter at entered
  split at entered
  · cases entered
  next level named =>
    split at entered
    · cases entered
    next last ended =>
      have read := eq_some_of_run entered
      simp only [Option.bind_eq_bind, Option.bind_eq_some_iff] at read
      obtain ⟨values, settled, top, resolved, invoked⟩ := read
      exact ⟨level, last, values, top, named, ended, settled, resolved, invoked⟩
    · cases entered

theorem not_run_of_explain (words : List String) : explain words ≠ .run invocation := by
  unfold explain
  split
  · nofun
  · nofun
  · split <;> nofun
  · nofun

theorem enter_of_settled {values : List (String × String)} {last : Progress}
    (introduces : Introduces front host port revision outer)
    (named : Usage.commands.lookup word = some level) (ended : scan level {} rest = .ends last)
    (settled : settle level last = some values) :
    enter word rest outer = ((command word values).map fun command =>
      Request.run { host, port, revision, command }).getD .reject := by
  obtain ⟨top, resolved, invokes⟩ := introduces.invokes
  simp only [enter, named, ended, settled, resolved, invokes, Option.bind_eq_bind,
    Option.bind_some, Option.map_map]
  rfl

theorem go_on_place_of_bare (placeless : level.positionals = []) (value : String)
    (progress : Progress) : goOn (place level value progress) = .reject := by
  simp [place, placeless, goOn]

/-- A level that takes no arguments goes on behind the argument `--` only. -/
theorem pending_of_bare_read {argument : String} (optionless : level.parameters = [])
    (placeless : level.positionals = []) (blank : progress.pending = none)
    (reading : read level argument progress = .goOn later) : later.pending = none := by
  have idle : awaitsValue progress = false := by simp [awaitsValue, blank]
  unfold read at reading
  split at reading
  · rw [go_on_place_of_bare placeless] at reading
    cases reading
  · split at reading
    · cases reading
    · split at reading
      · cases reading
        exact blank
      · simp only [long, optionless, List.find?_nil, ask] at reading
        grind
      · simp only [short, optionless, List.find?_nil, ask] at reading
        grind
      · rw [idle, go_on_place_of_bare placeless] at reading
        cases reading

theorem scan_ping_ne_ends (blank : progress.pending = none) :
    scan Usage.ping progress (rest ++ ["ping"]) ≠ .ends later := by
  induction rest generalizing progress with
  | nil =>
      have placed : Placed Usage.ping progress "ping" := by
        cases plain : progress.plain with
        | true => exact .inl plain
        | false => exact .inr ⟨by decide, rfl, by simp [awaitsValue, blank]⟩
      have refused : read Usage.ping "ping" progress = .reject := by
        rw [read_of_placed placed, go_on_place_of_bare rfl]
      simp [scan, refused]
  | cons argument others ih =>
      rw [List.cons_append, scan]
      cases reading : read Usage.ping argument progress with
      | goOn next => exact ih (pending_of_bare_read rfl rfl blank reading)
      | enter | help | version | reject => nofun

theorem word_of_command_ping {values : List (String × String)}
    (said : command word values = some .ping) : word = "ping" := by
  unfold command at said
  split at said
  next => rfl
  all_goals simp [Option.bind_eq_some_iff] at said

theorem invocation_eq_some {top values : List (String × String)}
    (invoked : Arguments.invocation word top values = some invocation) :
    command word values = some invocation.command ∧ ∀ word values,
      Arguments.invocation word top values =
        (command word values).map fun command => { invocation with command } := by
  simp only [Arguments.invocation, Option.bind_eq_bind, Option.bind_eq_some_iff] at invoked
  obtain ⟨portText, portFound, port, portRead, host, hostFound, revisionText, revisionFound,
    revision, revisionRead, command, said, same⟩ := invoked
  cases same
  refine ⟨said, fun word values => ?_⟩
  simp only [Arguments.invocation, portFound, portRead, hostFound, revisionFound, revisionRead,
    Option.bind_eq_bind, Option.bind_some]
  cases Arguments.command word values <;> rfl

theorem read_of_command (options : progress.plain = false) (idle : awaitsValue progress = false)
    (known : level.commands.any (fun command => command.1 == word) = true) :
    read level word progress = .enter := by
  rw [read, options, idle, known]
  rfl

theorem exists_introduces_of_opens (opens : Opens front host port revision) :
    ∃ outer, Introduces front host port revision outer := by
  unfold Opens parse at opens
  by_cases ends : ∃ outer, scan Usage.top {} front = .ends outer
  · obtain ⟨outer, ended⟩ := ends
    rw [scan_append_of_ends ended, scan] at opens
    cases plain : outer.plain with
    | true =>
        rw [read_of_placed (.inl plain), go_on_place_of_bare rfl] at opens
        cases opens
    | false =>
        cases idle : awaitsValue outer with
        | true =>
            have supplied : read Usage.top "ping" outer = .goOn (supply "ping" outer) := by
              simp [read, plain, idle]
            rw [supplied] at opens
            cases opens
        | false =>
            rw [read_of_command plain idle (by decide)] at opens
            obtain ⟨_, _, _, top, _, _, _, resolved, invoked⟩ := run_of_enter opens
            exact ⟨outer, ended, plain, idle, top, resolved, (invocation_eq_some invoked).2⟩
  · rw [scan_append_of_left (not_exists.mp ends)] at opens
    cases scanned : scan Usage.top {} front with
    | ends outer => exact (ends ⟨outer, scanned⟩).elim
    | enters word behind outer =>
        rw [scanned] at opens
        split at opens
        · exact (not_run_of_explain _ opens).elim
        next same =>
          cases same
          obtain ⟨level, _, _, _, named, ended, _, _, invoked⟩ := run_of_enter opens
          obtain rfl := word_of_command_ping (invocation_eq_some invoked).1
          cases named
          exact (scan_ping_ne_ends rfl ended).elim
        all_goals cases opens
    | help | version | reject =>
        rw [scanned] at opens
        cases opens

theorem known_of_lookup (named : Usage.commands.lookup word = some level) :
    Usage.top.commands.any (fun command => command.1 == word) = true := by
  obtain ⟨before, after, split, _⟩ := List.lookup_eq_some_iff.mp named
  have listed : (word, level) ∈ Usage.commands := by simp [split]
  rw [List.any_eq_true]
  refine ⟨(word, level.about), List.mem_append_left _ ?_, by simp⟩
  exact List.mem_map_of_mem (f := fun command => (command.1, command.2.about)) listed

/-- What stands behind the word of a command is read as its arguments. -/
theorem parse_of_introduces (introduces : Introduces front host port revision outer)
    (named : Usage.commands.lookup word = some level) :
    parse (front ++ word :: rest) = enter word rest outer := by
  have other : word ≠ "help" := by
    rintro rfl
    cases named
  have entered := read_of_command introduces.options introduces.idle (known_of_lookup named)
  rw [parse, scan_append_of_ends introduces.ended, scan, entered]
  split
  next same =>
    cases same
    exact (other rfl).elim
  next same =>
    cases same
    rfl
  all_goals next same => cases same

end Opening

end Arguments

end Console

end WatchLink
