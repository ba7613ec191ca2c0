import Highlighter.Builder
import Highlighter.Proofs.Translation.Outcome

/-!
# What a builder makes

Builders compared with registering patterns by hand.

A builder is fed in four ways and checks next to nothing while it is fed. What it
keeps of the calls is little: the specifications in the order in which they came, and
the last value of the switch. `ofCalls_eq` says so, and it is the reason why nothing
depends on how the specifications were split over the calls, or on where between them
the switch was set.

Building then registers the specifications one after the other on a new scanner.
Registering a pattern looks at the pattern only and never at the scanner that it is
added to: `addRegex_value` reduces it to registering the pattern on its own. So
registering a list of them comes to collecting what each of them does alone, and what
is known of the first error of a list of outcomes tells which specification a builder
fails with.

## Main definitions

* `BuilderCall`: The calls that feed a builder.
* `BuilderCall.specs`, `BuilderCall.mark?`: What a call brings.
* `ScannerBuilder.ofCalls`: The builder that some calls make of the empty one.
* `PatternSpec.alone`: The scanner that a specification makes on its own.
* `Scanner.registerAll`: Registering specifications by hand.

## Theorems

* `Scanner.addRegex_value`: Registering does not look at the scanner.
* `Scanner.addSpecs_value`: A builder registers as one does by hand.
* `Scanner.registerAll_value`: The outcomes of registering alone are collected.
* `ScannerBuilder.ofCalls_eq`: What a builder keeps of its calls.
* `ScannerBuilder.exists_build_ok_iff`, `ScannerBuilder.build_eq_error_iff`: When a
  builder fails, and with which error.
* `ScannerBuilder.build_eq_registerAll`: Building is registering by hand.
-/

namespace Highlighter

variable {σ : Type}

/-! ## Registering by hand -/

/-- The scanner that a specification makes of a new one. Without a group, the whole
    match is the lexeme. -/
def PatternSpec.alone (p : PatternSpec) : Except Error (Scanner σ) :=
  ((Scanner.empty : Scanner σ).addRegex p.type p.pattern (p.group.getD 0)).value

namespace Scanner

/-- Registers specifications by hand, one after the other, up to the first that is
    refused. -/
def registerAll (s : Scanner σ) (ps : List PatternSpec) : Except Error (Scanner σ) :=
  ps.foldlM (fun s p => (s.addRegex p.type p.pattern (p.group.getD 0)).value) s

/-- Registering a pattern does not look at the scanner: it is refused or not as it
    is on a new one, and what is added is the same. -/
theorem addRegex_value (s : Scanner σ) (type pattern : String) (group : Nat) :
    (s.addRegex type pattern group).value
      = ((Scanner.empty : Scanner σ).addRegex type pattern group).value.map fun t =>
        { s with patterns := s.patterns ++ t.patterns } := by
  unfold addRegex
  rcases RegexMatcher.compile {} pattern group with e | m
  · rfl
  · by_cases hbad : (type.isEmpty || TokenType.isReserved type) = true
    · simp only [add, hbad, if_true, Except.map]
    · simp only [add, hbad, Bool.false_eq_true, if_false, Except.map, empty, List.nil_append]

/-- A builder registers as one does by hand. -/
theorem addSpecs_value (s : Scanner σ) (ps : List PatternSpec) :
    (s.addSpecs ps).value = s.registerAll ps := by
  induction ps generalizing s with
  | nil => rfl
  | cons p ps ih =>
      rw [addSpecs, Logged.andThen_value, registerAll, List.foldlM_cons]
      rcases hp : (s.addRegex p.type p.pattern (p.group.getD 0)).value with e | t
      · simp only [PatternSpec.groupIndex, hp]
        rfl
      · simp only [PatternSpec.groupIndex, hp]
        exact ih t

/-- Registering specifications collects what each of them does on its own. -/
theorem registerAll_value (s : Scanner σ) (ps : List PatternSpec) :
    s.registerAll ps = (collect (ps.map (PatternSpec.alone (σ := σ)))).map fun ts =>
      { s with patterns := s.patterns ++ ts.flatMap (·.patterns) } := by
  induction ps generalizing s with
  | nil =>
      rw [List.map_nil, collect, Except.map, List.flatMap_nil, List.append_nil]
      rfl
  | cons p ps ih =>
      have hcons : s.registerAll (p :: ps)
          = (s.addRegex p.type p.pattern (p.group.getD 0)).value.bind (·.registerAll ps) := by
        rw [registerAll, List.foldlM_cons]
        rfl
      rw [hcons, addRegex_value, List.map_cons]
      rcases hp : (PatternSpec.alone p : Except Error (Scanner σ)) with e | t
      · rw [PatternSpec.alone] at hp
        rw [hp]
        rfl
      · rw [PatternSpec.alone] at hp
        rw [hp, Except.map, Except.bind, ih, collect]
        -- The patterns of the others come behind those of the first one.
        rcases collect (ps.map (PatternSpec.alone (σ := σ))) with e | ts
        · rfl
        · simp only [Except.map, List.flatMap_cons, List.append_assoc]

end Scanner

/-! ## Feeding a builder -/

/-- The calls that feed a builder. -/
inductive BuilderCall where
  /-- Adds a specification. -/
  | addPattern (p : PatternSpec)
  /-- Adds some specifications. -/
  | addPatterns (ps : List PatternSpec)
  /-- Adds the specifications of a JSON text. -/
  | addJson (text : String)
  /-- Sets whether empty matches will be marked. -/
  | setMarkEmpty (mark : Bool)

namespace BuilderCall

/-- The specifications that a call brings. A text that cannot be read brings none. -/
def specs : BuilderCall → List PatternSpec
  | addPattern p => [p]
  | addPatterns ps => ps
  | addJson text => (PatternSpec.listOfJson text).toOption.getD []
  | setMarkEmpty _ => []

/-- The value of the switch that a call brings, if it does. -/
def mark? : BuilderCall → Option Bool
  | setMarkEmpty mark => some mark
  | _ => none

/-- The call brings no text that cannot be read. -/
def IsReadable (call : BuilderCall) : Prop :=
  ∀ text, call = .addJson text → ∃ ps, PatternSpec.listOfJson text = .ok ps

/-- All specifications that some calls bring, in order. -/
def allSpecs (calls : List BuilderCall) : List PatternSpec := calls.flatMap specs

/-- The last value of the switch that some calls bring. It is off at first. -/
def lastMark (calls : List BuilderCall) : Bool := (calls.filterMap mark?).getLast?.getD false

end BuilderCall

namespace ScannerBuilder

/-- Makes a call. -/
def feed (b : ScannerBuilder) : BuilderCall → Except Error ScannerBuilder
  | .addPattern p => .ok (b.addPattern p)
  | .addPatterns ps => .ok (b.addPatterns ps)
  | .addJson text => b.addJson text
  | .setMarkEmpty mark => .ok (b.setMarkEmpty mark)

/-- The builder that some calls make of the empty one. -/
def ofCalls (calls : List BuilderCall) : Except Error ScannerBuilder := calls.foldlM feed empty

/-- A call with nothing unreadable is carried out, and adds what it brings. -/
theorem feed_eq (b : ScannerBuilder) (call : BuilderCall) (hread : call.IsReadable) :
    b.feed call = .ok ⟨b.patterns ++ call.specs, call.mark?.getD b.markEmpty⟩ := by
  cases call with
  | addPattern p => rfl
  | addPatterns ps => rfl
  | addJson text =>
      rcases hread text rfl with ⟨ps, hps⟩
      simp only [feed, addJson, hps, BuilderCall.specs]
      rfl
  | setMarkEmpty mark =>
      simp only [feed, BuilderCall.specs, List.append_nil]
      rfl

/-- What a builder keeps of its calls. -/
theorem ofCalls_eq (calls : List BuilderCall) (hread : ∀ call ∈ calls, call.IsReadable) :
    ofCalls calls = .ok ⟨BuilderCall.allSpecs calls, BuilderCall.lastMark calls⟩ := by
  have hfold : ∀ b : ScannerBuilder, calls.foldlM feed b
      = .ok ⟨b.patterns ++ BuilderCall.allSpecs calls,
        (calls.filterMap BuilderCall.mark?).getLast?.getD b.markEmpty⟩ := by
    -- The calls go to a builder that has already been fed.
    induction calls with
    | nil =>
        intro b
        simp only [List.foldlM_nil, BuilderCall.allSpecs, List.flatMap_nil, List.append_nil]
        rfl
    | cons call calls ih =>
        intro b
        have hrest := ih fun c hc => hread c (List.mem_cons_of_mem _ hc)
        rw [List.foldlM_cons, feed_eq b call (hread call List.mem_cons_self)]
        refine (hrest _).trans ?_
        simp only [BuilderCall.allSpecs, List.flatMap_cons, List.append_assoc]
        -- A later value of the switch wins over the one of this call.
        rcases hmark : call.mark? with _ | mark
        · rw [List.filterMap_cons_none hmark]
          rfl
        · rw [List.filterMap_cons_some hmark, List.getLast?_cons]
          rfl
  exact hfold empty

/-! ## Building -/

/-- Building registers the specifications by hand and sets the switch. -/
theorem build_value (b : ScannerBuilder) :
    (b.build : Logged (Except Error (Scanner σ))).value
      = (Scanner.empty.registerAll b.patterns).map (·.setMarkEmpty b.markEmpty) := by
  rw [build, Logged.after_value, Logged.map_value, Scanner.addSpecs_value]
  cases (Scanner.empty : Scanner σ).registerAll b.patterns with
  | error e => rfl
  | ok s => rfl

theorem exists_build_ok_iff (b : ScannerBuilder) :
    (∃ s : Scanner σ, b.build.value = .ok s) ↔
      ∀ p ∈ b.patterns, ∃ s : Scanner σ, p.alone = .ok s := by
  rw [← exists_collect_map_ok_iff, build_value, Scanner.registerAll_value]
  rcases collect (b.patterns.map (PatternSpec.alone (σ := σ))) with e | ts
  · simp only [Except.map, reduceCtorEq, exists_false]
  · exact iff_of_true ⟨_, rfl⟩ ⟨ts, rfl⟩

theorem build_eq_error_iff (b : ScannerBuilder) (e : Error) :
    (b.build : Logged (Except Error (Scanner σ))).value = .error e ↔
      ∃ before p after, b.patterns = before ++ p :: after ∧
        (∀ q ∈ before, ∃ s : Scanner σ, q.alone = .ok s) ∧
        (p.alone : Except Error (Scanner σ)) = .error e := by
  rw [← collect_map_eq_error_iff, build_value, Scanner.registerAll_value]
  rcases collect (b.patterns.map (PatternSpec.alone (σ := σ))) with e' | ts
  · simp only [Except.map, Except.error.injEq]
  · simp only [Except.map, reduceCtorEq]

/-- A builder makes the scanner that registering all its specifications by hand makes
    of a new one, with the switch at its last value. It fails with the first
    specification that cannot be registered on its own, and only if there is one.
    Calls that bring the same specifications and the same last value of the switch
    make the same builder. -/
theorem build_eq_registerAll (calls : List BuilderCall)
    (hread : ∀ call ∈ calls, call.IsReadable) :
    ∃ b, ofCalls calls = .ok b ∧
      (b.build : Logged (Except Error (Scanner σ))).value
        = ((Scanner.empty : Scanner σ).registerAll (BuilderCall.allSpecs calls)).map
          (·.setMarkEmpty (BuilderCall.lastMark calls)) ∧
      ((∃ s : Scanner σ, b.build.value = .ok s) ↔
        ∀ p ∈ BuilderCall.allSpecs calls, ∃ s : Scanner σ, p.alone = .ok s) ∧
      (∀ e, (b.build : Logged (Except Error (Scanner σ))).value = .error e ↔
        ∃ before p after, BuilderCall.allSpecs calls = before ++ p :: after ∧
          (∀ q ∈ before, ∃ s : Scanner σ, q.alone = .ok s) ∧
          (p.alone : Except Error (Scanner σ)) = .error e) ∧
      ∀ calls', (∀ call ∈ calls', call.IsReadable) →
        BuilderCall.allSpecs calls' = BuilderCall.allSpecs calls →
        BuilderCall.lastMark calls' = BuilderCall.lastMark calls → ofCalls calls' = .ok b := by
  refine ⟨_, ofCalls_eq calls hread, build_value _, exists_build_ok_iff _, build_eq_error_iff _,
    fun calls' hread' hspecs hmark => ?_⟩
  rw [ofCalls_eq calls' hread', hspecs, hmark]

/-- Calls that feed a builder in all four ways. The switch is set twice, the fourth
    specification has a reserved type, and the one behind it a broken pattern. -/
def mixedCalls : List BuilderCall :=
  [.setMarkEmpty true, .addPatterns [⟨"kw", "(if)[^a-z]", some 1⟩, ⟨"name", "[a-z]+", none⟩],
    .addJson "[\x7b\"pattern\":\"a\",\"token_type\":\"num\"\x7d,[\"(end)\",\"b\"]]",
    .setMarkEmpty false, .addPattern ⟨"bad", "(", none⟩]

theorem build_eq_registerAll_mixed :
    (∀ call ∈ mixedCalls, call.IsReadable) ∧
    ∃ b, ofCalls mixedCalls = .ok b ∧
      (b.build : Logged (Except Error (Scanner Nat))).value
        = ((Scanner.empty : Scanner Nat).registerAll (BuilderCall.allSpecs mixedCalls)).map
          (·.setMarkEmpty (BuilderCall.lastMark mixedCalls)) ∧
      (b.build : Logged (Except Error (Scanner Nat))).value = .error (.badTokenType "(end)") := by
  have hread : ∀ call ∈ mixedCalls, call.IsReadable := by
    intro call hcall text htext
    rw [htext] at hcall
    simp only [mixedCalls, List.mem_cons, reduceCtorEq, BuilderCall.addJson.injEq, List.not_mem_nil,
      false_or, or_false] at hcall
    rw [hcall]
    exact ⟨[⟨"num", "a", none⟩, ⟨"(end)", "b", none⟩], by rfl⟩
  rcases build_eq_registerAll (σ := Nat) mixedCalls hread with ⟨b, hb, hdirect, _, herror, _⟩
  refine ⟨hread, b, hb, hdirect, (herror _).mpr ?_⟩
  refine ⟨[⟨"kw", "(if)[^a-z]", some 1⟩, ⟨"name", "[a-z]+", none⟩, ⟨"num", "a", none⟩],
    ⟨"(end)", "b", none⟩, [⟨"bad", "(", none⟩], by rfl, ?_, by rfl⟩
  intro q hq
  simp only [List.mem_cons, List.not_mem_nil, or_false] at hq
  rcases hq with rfl | rfl | rfl
  · exact ⟨_, rfl⟩
  · exact ⟨_, rfl⟩
  · exact ⟨_, rfl⟩

end ScannerBuilder

end Highlighter
