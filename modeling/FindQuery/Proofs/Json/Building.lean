import FindQuery.Json.Tree

namespace FindQuery.Json

/-- How many containers are open after a token. None where it closes one that is not open, or separates
values outside of all. -/
def Token.level? (level : Nat) : Token → Option Nat
  | .openArray | .openObject => some (level + 1)
  | .closeArray | .closeObject => if level = 0 then none else some (level - 1)
  | .comma => if level = 0 then none else some level
  | _ => some level

def Token.levels? (level : Nat) (tokens : List Token) : Option Nat := tokens.foldlM Token.level? level

theorem Token.levels?_append (level : Nat) (tokens rest : List Token) :
    levels? level (tokens ++ rest) = (levels? level tokens).bind (levels? · rest) := by
  simp only [levels?, List.foldlM_append]
  rfl

theorem Token.levels?_cons (level : Nat) (token : Token) (rest : List Token) :
    levels? level (token :: rest) = (level? level token).bind (levels? · rest) := by
  simp only [levels?, List.foldlM_cons]
  rfl

theorem Token.level?_add (extra : Nat) {level next : Nat} {token : Token}
    (counted : level? level token = some next) : level? (level + extra) token = some (next + extra) := by
  cases token <;> simp only [level?, Option.some.injEq, Option.ite_none_left_eq_some] at counted ⊢ <;> omega

theorem Token.levels?_add (extra : Nat) {level last : Nat} {tokens : List Token}
    (counted : levels? level tokens = some last) : levels? (level + extra) tokens = some (last + extra) := by
  induction tokens generalizing level with
  | nil => cases counted; rfl
  | cons token rest ih =>
    simp only [levels?_cons, Option.bind_eq_some_iff] at counted ⊢
    obtain ⟨next, one, others⟩ := counted
    exact ⟨next + extra, level?_add extra one, ih others⟩

namespace Tree

def Builder.level (builder : Builder) : Nat :=
  match builder.goal with
  | .nothing _ => 0
  | .value => builder.stack.length
  | _ => builder.stack.length + 1

/-- A builder of one value, as a part of the building of a larger one. -/
def Builder.under (builder : Builder) (base : List Frame) : Builder :=
  match builder.goal with
  | .nothing result => complete result base
  | goal => ⟨builder.stack ++ base, goal⟩

theorem complete_under (value : Tree) (stack base : List Frame) :
    (complete value stack).under base = complete value (stack ++ base) := by
  cases stack with
  | nil => rfl
  | cons frame stack => cases frame <;> rfl

theorem level_complete (value : Tree) (stack : List Frame) : (complete value stack).level = stack.length := by
  cases stack with
  | nil => rfl
  | cons frame stack => cases frame <;> rfl

theorem beginValue?_under (stack base : List Frame) (token : Token) :
    beginValue? (stack ++ base) token = (beginValue? stack token).map (·.under base) := by
  cases token <;> simp only [beginValue?, Option.map_some, Option.map_none, complete_under]
  case openArray | openObject => rfl

theorem step?_itemOrClose (stack : List Frame) {token : Token} (more : token ≠ .closeArray) :
    step? ⟨stack, .itemOrClose⟩ token = step? ⟨.item [] :: stack, .value⟩ token := by
  cases token <;> first | rfl | exact absurd rfl more

theorem level?_of_beginValue? {stack : List Frame} {token : Token} {next : Builder}
    (begun : beginValue? stack token = some next) : token.level? stack.length = some next.level := by
  cases token <;> simp only [beginValue?, reduceCtorEq, Option.some.injEq] at begun <;> subst begun
  case openArray | openObject => rfl
  all_goals rw [level_complete]; rfl

theorem level?_of_step? {builder next : Builder} {token : Token} (stepped : step? builder token = some next) :
    token.level? builder.level = some next.level := by
  obtain ⟨stack, goal⟩ := builder
  cases goal
  case value => exact level?_of_beginValue? stepped
  case itemOrClose =>
    by_cases closed : token = .closeArray
    · subst closed
      cases stepped
      rw [level_complete]
      rfl
    · rw [step?_itemOrClose stack closed] at stepped
      exact level?_of_beginValue? stepped
  all_goals
    cases token <;> simp only [step?, reduceCtorEq, Option.some.injEq] at stepped <;> subst stepped <;>
      first | rfl | (rw [level_complete]; rfl)

theorem step?_under {builder : Builder} (base : List Frame) (token : Token)
    (unfinished : ∀ result, builder.goal ≠ .nothing result) :
    step? (builder.under base) token = (step? builder token).map (·.under base) := by
  obtain ⟨stack, goal⟩ := builder
  cases goal
  case nothing result => exact absurd rfl (unfinished result)
  case value => exact beginValue?_under stack base token
  case itemOrClose =>
    by_cases closed : token = .closeArray
    · subst closed
      exact congrArg some (complete_under (.array []) stack base).symm
    · rw [step?_itemOrClose stack closed]
      exact (step?_itemOrClose (stack ++ base) closed).trans (beginValue?_under (.item [] :: stack) base token)
  all_goals
    cases token <;> first | rfl | exact congrArg some (complete_under _ stack base).symm

theorem run?_append (builder : Builder) (tokens rest : List Token) :
    run? builder (tokens ++ rest) = (run? builder tokens).bind (run? · rest) := by
  simp only [run?, List.foldlM_append]
  rfl

theorem run?_cons (builder : Builder) (token : Token) (rest : List Token) :
    run? builder (token :: rest) = (step? builder token).bind (run? · rest) := by
  simp only [run?, List.foldlM_cons]
  rfl

theorem levels?_of_run? {builder last : Builder} {tokens : List Token} (ran : run? builder tokens = some last) :
    Token.levels? builder.level tokens = some last.level := by
  induction tokens generalizing builder with
  | nil => cases ran; rfl
  | cons token rest ih =>
    simp only [run?_cons, Option.bind_eq_some_iff] at ran
    obtain ⟨next, stepped, others⟩ := ran
    rw [Token.levels?_cons, level?_of_step? stepped, Option.bind_some, ih others]

theorem run?_under {builder last : Builder} {tokens : List Token} (base : List Frame)
    (ran : run? builder tokens = some last) : run? (builder.under base) tokens = some (last.under base) := by
  induction tokens generalizing builder with
  | nil => cases ran; rfl
  | cons token rest ih =>
    simp only [run?_cons, Option.bind_eq_some_iff] at ran ⊢
    obtain ⟨next, stepped, others⟩ := ran
    refine ⟨next.under base, ?_, ih others⟩
    rw [step?_under base token, stepped, Option.map_some]
    intro result finished
    simp [step?, finished] at stepped

theorem step?_complete_of_level? {value : Tree} {base : List Frame} {token : Token} {level : Nat}
    (counted : token.level? 0 = some level) : step? (complete value base) token = none := by
  cases base with
  | nil => rfl
  | cons frame base =>
    cases frame <;> cases token <;> first | rfl | simp [Token.level?] at counted

/-- Tokens that keep to their own containers never touch those around them. -/
theorem run?_of_under {builder last : Builder} {tokens : List Token} {base : List Frame} {level : Nat}
    (counted : Token.levels? builder.level tokens = some level)
    (ran : run? (builder.under base) tokens = some last) :
    ∃ own, run? builder tokens = some own ∧ last = own.under base := by
  induction tokens generalizing builder with
  | nil => cases ran; exact ⟨builder, rfl, rfl⟩
  | cons token rest ih =>
    simp only [run?_cons, Token.levels?_cons, Option.bind_eq_some_iff] at ran counted ⊢
    obtain ⟨inside, stepped, others⟩ := ran
    obtain ⟨next, one, counted⟩ := counted
    by_cases finished : ∃ result, builder.goal = .nothing result
    · obtain ⟨result, goal⟩ := finished
      have stuck : step? (builder.under base) token = none := by
        simp only [Builder.under, goal]
        simp only [Builder.level, goal] at one
        exact step?_complete_of_level? one
      rw [stuck] at stepped
      cases stepped
    · rw [step?_under base token (fun result goal => finished ⟨result, goal⟩)] at stepped
      obtain ⟨own, ownStep, rfl⟩ := Option.map_eq_some_iff.mp stepped
      rw [level?_of_step? ownStep, Option.some.injEq] at one
      subst one
      obtain ⟨ownLast, ownRun, rfl⟩ := ih counted others
      exact ⟨ownLast, ⟨own, ownStep, ownRun⟩, rfl⟩

theorem run?_of_ofTokens? {tokens : List Token} {value : Tree} (built : ofTokens? tokens = some value)
    (stack : List Frame) : run? ⟨stack, .value⟩ tokens = some (complete value stack) := by
  obtain ⟨last, ran, result⟩ := Option.bind_eq_some_iff.mp built
  have finished : last.goal = .nothing value := by
    unfold result? at result
    split at result
    · next goal => cases result; exact goal
    · cases result
  have whole := run?_under stack ran
  simpa only [Builder.under, finished, List.nil_append] using whole

theorem levels?_of_ofTokens? {tokens : List Token} {value : Tree} (built : ofTokens? tokens = some value) :
    Token.levels? 0 tokens = some 0 := by
  have counted := levels?_of_run? (run?_of_ofTokens? built [])
  rwa [level_complete] at counted

theorem run?_itemOrClose (stack : List Frame) {tokens : List Token} {last : Builder} (nonempty : tokens ≠ [])
    (ran : run? ⟨.item [] :: stack, .value⟩ tokens = some last) :
    run? ⟨stack, .itemOrClose⟩ tokens = some last := by
  cases tokens with
  | nil => exact absurd rfl nonempty
  | cons token rest =>
    rw [run?_cons] at ran ⊢
    rwa [step?_itemOrClose]
    rintro rfl
    cases ran

mutual

def tokens : Tree → List Token
  | .null => [.null]
  | .bool value => [.bool value]
  | .numeral written => [.numeral written]
  | .text pieces => [.text pieces]
  | .array items => .openArray :: itemsTokens items ++ [.closeArray]
  | .object members => .openObject :: membersTokens members ++ [.closeObject]

def itemsTokens : List Tree → List Token
  | [] => []
  | [item] => item.tokens
  | item :: rest => item.tokens ++ .comma :: itemsTokens rest

def membersTokens : List (List Piece × Tree) → List Token
  | [] => []
  | [(key, value)] => .text key :: .colon :: value.tokens
  | (key, value) :: rest => .text key :: .colon :: value.tokens ++ .comma :: membersTokens rest

end

theorem run?_keyOrClose (stack : List Frame) {members : List (List Piece × Tree)} (nonempty : members ≠ []) :
    run? ⟨stack, .keyOrClose⟩ (membersTokens members) = run? ⟨stack, .key []⟩ (membersTokens members) := by
  match members with
  | [] => exact absurd rfl nonempty
  | [(_, _)] => rfl
  | (_, _) :: _ :: _ => rfl

mutual

theorem run?_tokens : ∀ (value : Tree) (stack : List Frame),
    run? ⟨stack, .value⟩ value.tokens = some (complete value stack)
  | .null, _ => rfl
  | .bool _, _ => rfl
  | .numeral _, _ => rfl
  | .text _, _ => rfl
  | .array items, stack => by
    have start : run? ⟨stack, .value⟩ (Tree.array items).tokens =
        (run? ⟨stack, .itemOrClose⟩ (itemsTokens items)).bind (run? · [.closeArray]) :=
      run?_append ⟨stack, .itemOrClose⟩ (itemsTokens items) [.closeArray]
    rw [start]
    by_cases empty : items = []
    · subst empty
      rfl
    · have ran := run?_itemsTokens items empty [] stack
      have written : itemsTokens items ≠ [] := by
        intro none
        rw [none] at ran
        cases ran
      rw [run?_itemOrClose stack written ran, Option.bind_some, List.append_nil]
      exact congrArg (fun items => some (complete (.array items) stack)) items.reverse_reverse
  | .object members, stack => by
    have start : run? ⟨stack, .value⟩ (Tree.object members).tokens =
        (run? ⟨stack, .keyOrClose⟩ (membersTokens members)).bind (run? · [.closeObject]) :=
      run?_append ⟨stack, .keyOrClose⟩ (membersTokens members) [.closeObject]
    rw [start]
    by_cases empty : members = []
    · subst empty
      rfl
    · have ran := run?_membersTokens members empty [] stack
      rw [run?_keyOrClose stack empty, ran, Option.bind_some, List.append_nil]
      exact congrArg (fun members => some (complete (.object members) stack)) members.reverse_reverse

theorem run?_itemsTokens : ∀ (items : List Tree), items ≠ [] → ∀ (before : List Tree) (stack : List Frame),
    run? ⟨.item before :: stack, .value⟩ (itemsTokens items) =
      some ⟨stack, .commaOrCloseArray (items.reverse ++ before)⟩
  | [], nonempty, _, _ => absurd rfl nonempty
  | [item], _, before, stack => run?_tokens item (.item before :: stack)
  | item :: next :: rest, _, before, stack => by
    have others := run?_itemsTokens (next :: rest) (by simp) (item :: before) stack
    rw [itemsTokens, run?_append, run?_tokens item, Option.bind_some, run?_cons]
    · simpa [step?, complete] using others
    · simp

theorem run?_membersTokens : ∀ (members : List (List Piece × Tree)), members ≠ [] →
    ∀ (before : List (List Piece × Tree)) (stack : List Frame),
      run? ⟨stack, .key before⟩ (membersTokens members) =
        some ⟨stack, .commaOrCloseObject (members.reverse ++ before)⟩
  | [], nonempty, _, _ => absurd rfl nonempty
  | [(key, value)], _, before, stack => run?_tokens value (.member before key :: stack)
  | (key, value) :: next :: rest, _, before, stack => by
    have others := run?_membersTokens (next :: rest) (by simp) ((key, value) :: before) stack
    have first : run? ⟨stack, .key before⟩ (membersTokens ((key, value) :: next :: rest)) =
        run? ⟨.member before key :: stack, .value⟩ (value.tokens ++ .comma :: membersTokens (next :: rest)) := rfl
    rw [first, run?_append, run?_tokens value, Option.bind_some, run?_cons]
    simpa [step?, complete] using others

end

theorem ofTokens?_tokens (value : Tree) : ofTokens? value.tokens = some value := by
  rw [ofTokens?, run?_tokens]
  rfl

def pair (key : List Piece) (first second : Tree) : Tree := .object [(key, .array [first, second])]

def pairTokens (key : List Piece) (first second : List Token) : List Token :=
  .openObject :: .text key :: .colon :: .openArray :: (first ++ .comma :: (second ++ [.closeArray, .closeObject]))

theorem ofTokens?_pairTokens (key : List Piece) {first second : List Token} {a b : Tree}
    (builtFirst : ofTokens? first = some a) (builtSecond : ofTokens? second = some b) :
    ofTokens? (pairTokens key first second) = some (pair key a b) := by
  have nonempty : first ≠ [] := by
    rintro rfl
    cases builtFirst
  have start : run? ⟨[], .value⟩ (pairTokens key first second) =
      run? ⟨[.member [] key], .itemOrClose⟩ (first ++ .comma :: (second ++ [.closeArray, .closeObject])) := rfl
  have ranFirst := run?_itemOrClose [.member [] key] nonempty (run?_of_ofTokens? builtFirst _)
  have ranSecond := run?_of_ofTokens? builtSecond [.item [a], .member [] key]
  have rest : run? (complete a [.item [], .member [] key]) (.comma :: (second ++ [.closeArray, .closeObject])) =
      run? ⟨[.item [a], .member [] key], .value⟩ (second ++ [.closeArray, .closeObject]) := rfl
  rw [ofTokens?, start, run?_append, ranFirst, Option.bind_some, rest, run?_append, ranSecond]
  rfl

theorem exists_ofTokens?_of_run? {stack : List Frame} {tokens rest : List Token} {last : Builder}
    (counted : Token.levels? 0 tokens = some 0)
    (ran : run? ⟨stack, .itemOrClose⟩ (tokens ++ .comma :: rest) = some last) :
    ∃ value, ofTokens? tokens = some value := by
  cases tokens with
  | nil => cases ran
  | cons token others =>
    have more : token ≠ .closeArray := by
      rintro rfl
      cases counted
    rw [List.cons_append, run?_cons, step?_itemOrClose stack more, ← run?_cons, ← List.cons_append,
      run?_append, Option.bind_eq_some_iff] at ran
    obtain ⟨inside, ran, continued⟩ := ran
    have lifted : run? (Builder.under ⟨[], .value⟩ (.item [] :: stack)) (token :: others) = some inside := ran
    have outside : Token.levels? (Builder.level ⟨[], .value⟩) (token :: others) = some 0 := counted
    obtain ⟨own, ownRun, rfl⟩ := run?_of_under outside lifted
    have level := levels?_of_run? ownRun
    rw [outside, Option.some.injEq] at level
    obtain ⟨ownStack, goal⟩ := own
    cases goal with
    | nothing value => exact ⟨value, by rw [ofTokens?, ownRun]; rfl⟩
    | value => cases continued
    | _ => cases level

end Tree

end FindQuery.Json
