import Interpose.Proofs.Declaration.Methods
import Interpose.Proofs.Keyed

namespace Interpose.Declaration

open Source Interpose.Outcome

variable {β σ : Type} {b : Block} {m : DeclaredMethod} {ps : List Passing} {args : List Value}

section Run

variable {n : Type → Type} [Monad n] [LawfulMonad n] {γ : Type}

-- The names of converted values, numbered from a number on, with the values.
def numbered (first : Nat) (bs : List β) : List (Nat × β) :=
  (bs.zipIdx first).map Prod.swap

theorem lookup_numbered {bs : List β} {name : Nat} {b : β} (h : bs[name]? = some b) :
    (numbered 0 bs).reverse.lookup name = some b := by
  have hm : (numbered 0 bs).map (·.1) = List.range' 0 bs.length := by
    rw [numbered, List.map_map]
    exact List.zipIdx_map_snd 0 bs
  have hn : ((numbered 0 bs).reverse.map (·.1)).Nodup := by
    rw [List.map_reverse, hm, List.nodup_reverse]
    exact List.nodup_range'
  refine (Keyed.lookup_eq_some hn).mpr ?_
  simpa [numbered, List.mem_zipIdx_iff_getElem?] using h

variable [MonadExcept Stop n] {convert : TypeExpr → Value → n β}

-- Bound values are found again under the numbers of their places.
theorem mapM_boundTo (bs : List β) :
    (List.range bs.length).mapM (boundTo (numbered 0 bs).reverse : Nat → n β) = pure bs := by
  refine mapM_eq_pure (List.forall₂_iff_get.mpr ⟨List.length_range, fun i h₁ h₂ => ?_⟩)
  have h := lookup_numbered (List.getElem?_eq_getElem h₂)
  simp only [boundTo, List.get_eq_getElem, List.getElem_range, h]

-- Values are taken one after the other. The induction is on those that are left; the ones in front
-- of them have been taken.
theorem foldlM_take (convert : TypeExpr → Value → n β) {ps : List Passing} {front rest : List Value}
    (hl : rest.length = ps.length) (ha : args = front ++ rest) (bound : List (Nat × β)) :
    ((ps.zipIdx front.length).map fun p => (⟨p.2, p.1, p.2⟩ : Binding)).foldlM
        (Binding.take convert args) bound =
      (fun bs => (numbered front.length bs).reverse ++ bound) <$>
        ((ps.map Passing.type).zip rest).mapM fun q => convert q.1 q.2 := by
  induction rest generalizing ps front bound
  case nil =>
    obtain rfl := List.eq_nil_of_length_eq_zero hl.symm
    simp [numbered]
  case cons v rest hi =>
    cases ps
    case nil => cases hl
    case cons p ps =>
      have hv : args[front.length]? = some v := by simp [ha]
      have ha : args = (front ++ [v]) ++ rest := by simp [ha]
      have hi := hi (Nat.succ.inj hl) ha
      rw [List.length_append, List.length_singleton] at hi
      simp [Binding.take, hv, hi, numbered]

theorem run_of (function : List β → n γ) (ps : List Passing) (args : List Value) :
    (Signature.of ps).run convert function args =
      if args.length ≠ (ps.map Passing.type).length then
        throw (.miscounted (ps.map Passing.type).length args.length)
      else ((ps.map Passing.type).zip args).mapM (fun q => convert q.1 q.2) >>= function := by
  rw [Signature.run, arity_of, ← List.length_map (f := Passing.type)]
  refine ite_congr rfl (fun _ => rfl) fun hl => ?_
  have hl : args.length = ps.length := (not_not.mp hl).trans (List.length_map _)
  have ha : args = [] ++ args := rfl
  have ht := foldlM_take convert hl ha []
  simp only [List.length_nil, List.append_nil] at ht
  simp only [Signature.of, ht, bind_map_left]
  refine mapM_bind_congr fun bs hb => ?_
  have hb : ps.length = bs.length := by simp [hb, hl]
  rw [hb, mapM_boundTo, pure_bind]

end Run

inductive Event (β : Type) where
  | converts (type : TypeExpr) (v : Value)
  | calls (args : List β)

-- The effects of a wrapper that is watched: what happens is put down, one after the other.
abbrev Recording (β : Type) := ExceptT Stop (StateM (List (Event β)))

def recordedConvert (convert : TypeExpr → Value → Except ContainerError β) (type : TypeExpr)
    (v : Value) : Recording β β :=
  fun events => ((convert type v).mapError .unconverted, events ++ [.converts type v])

-- What the function of a method is called with, or why it is not, and everything that happens on
-- the way.
def DeclaredMethod.recorded (convert : TypeExpr → Value → Except ContainerError β)
    (m : DeclaredMethod) (args : List Value) : Except Stop (List β) × List (Event β) :=
  m.signature.run (recordedConvert convert) (fun bs events => (.ok bs, events ++ [.calls bs])) args
    []

-- Values are converted, each to its type.
def conversions (ps : List (TypeExpr × Value)) : List (Event β) :=
  ps.map fun p => .converts p.1 p.2

-- What happens to a list of values that arguments of some types are wanted for, and how it ends.
inductive Handles (convert : TypeExpr → Value → Except ContainerError β) (types : List TypeExpr)
    (args : List Value) : Except Stop (List β) × List (Event β) → Prop
  | miscounted (h : args.length ≠ types.length) :
    Handles convert types args (.error (.miscounted types.length args.length), [])
  | unconverted {before after : List (TypeExpr × Value)} {p : TypeExpr × Value} {e : ContainerError}
    (h : args.length = types.length) (hs : types.zip args = before ++ p :: after)
    (hb : ∀ q ∈ before, ∃ b, convert q.1 q.2 = .ok b) (he : convert p.1 p.2 = .error e) :
    Handles convert types args (.error (.unconverted e), conversions (before ++ [p]))
  | called {bs : List β} (h : args.length = types.length)
    (hb : List.Forall₂ (fun p b => convert p.1 p.2 = .ok b) (types.zip args) bs) :
    Handles convert types args (.ok bs, conversions (types.zip args) ++ [.calls bs])

section Recorded

variable {convert : TypeExpr → Value → Except ContainerError β}

theorem recordedConvert_of_ok {type : TypeExpr} {v : Value} {b : β} (h : convert type v = .ok b)
    (events : List (Event β)) : recordedConvert convert type v events =
      (.ok b, events ++ [.converts type v]) := by
  rw [recordedConvert, h]
  rfl

theorem recordedConvert_of_error {type : TypeExpr} {v : Value} {e : ContainerError}
    (h : convert type v = .error e) (events : List (Event β)) :
    recordedConvert convert type v events =
      (.error (.unconverted e), events ++ [.converts type v]) := by
  rw [recordedConvert, h]
  rfl

-- Values are converted one after the other, up to the first that cannot be.
theorem mapM_recordedConvert (convert : TypeExpr → Value → Except ContainerError β)
    (ps : List (TypeExpr × Value)) (events : List (Event β)) :
    (∃ bs, List.Forall₂ (fun p b => convert p.1 p.2 = .ok b) ps bs ∧
      ps.mapM (fun p => recordedConvert convert p.1 p.2) events =
        (.ok bs, events ++ conversions ps)) ∨
    ∃ before p after e, ps = before ++ p :: after ∧ (∀ q ∈ before, ∃ b, convert q.1 q.2 = .ok b) ∧
      convert p.1 p.2 = .error e ∧ ps.mapM (fun p => recordedConvert convert p.1 p.2) events =
        (.error (.unconverted e), events ++ conversions (before ++ [p])) := by
  induction ps generalizing events
  case nil => exact .inl ⟨[], .nil, by simp [conversions]; rfl⟩
  case cons p ps hi =>
    rw [List.mapM_cons]
    cases hc : convert p.1 p.2
    case error e =>
      exact .inr ⟨[], p, ps, e, rfl, nofun, hc, Step.bind_of_error (recordedConvert_of_error hc _)⟩
    case ok b =>
      have hp := recordedConvert_of_ok hc events
      have ha (qs : List (TypeExpr × Value)) : events ++ [.converts p.1 p.2] ++ conversions qs =
          events ++ conversions (p :: qs) := by simp [conversions]
      obtain ⟨bs, hbs, h⟩ | ⟨before, q, after, e, rfl, hb, he, h⟩ :=
        hi (events ++ [.converts p.1 p.2])
      case inl =>
        refine .inl ⟨b :: bs, .cons hc hbs, ?_⟩
        rw [Step.bind_of_ok hp, Step.bind_of_ok h, ha]
        rfl
      case inr =>
        refine .inr ⟨p :: before, q, after, e, rfl, List.forall_mem_cons.mpr ⟨⟨b, hc⟩, hb⟩, he, ?_⟩
        rw [Step.bind_of_ok hp, Step.bind_of_error h, ha]
        rfl

theorem recorded_handles (hm : m.signature = .of ps)
    (convert : TypeExpr → Value → Except ContainerError β) (args : List Value) :
    Handles convert (ps.map Passing.type) args (m.recorded convert args) := by
  rw [DeclaredMethod.recorded, hm, run_of]
  split
  case isTrue hl => exact .miscounted hl
  case isFalse hl =>
    have hl := not_not.mp hl
    obtain ⟨bs, hbs, h⟩ | ⟨before, p, after, e, hs, hb, he, h⟩ :=
      mapM_recordedConvert convert ((ps.map Passing.type).zip args) []
    case inl =>
      rw [Step.bind_of_ok h]
      exact .called hl hbs
    case inr =>
      rw [Step.bind_of_error h]
      exact .unconverted hl hs hb he

end Recorded

section Call

-- A method does what its function does with the arguments that the code around it has for it. If
-- that does not call the function, the method fails.
theorem call_of_handles (hm : m.signature = .of ps) (owner : String)
    (function : List β → Action σ Value) {r : Except Stop (List β) × List (Event β)}
    (h : Handles convert (ps.map Passing.type) args r) :
    (∀ bs, r.1 = .ok bs → m.call owner convert function args = function bs) ∧
      ∀ stop, r.1 = .error stop →
        m.call owner convert function args = .fail (stop.failure (owner ++ "." ++ m.name)) := by
  rw [DeclaredMethod.call, hm, run_of]
  cases h
  case miscounted hl =>
    rw [if_pos hl]
    refine ⟨nofun, ?_⟩
    rintro _ ⟨⟩
    rfl
  case unconverted before after p e hl hs hb he =>
    rw [if_neg (not_not.mpr hl), hs, mapM_of_error ?converted ?stopped]
    case converted =>
      intro q hq
      obtain ⟨b, hb⟩ := hb q hq
      exact ⟨b, by rw [hb]; rfl⟩
    case stopped => rw [he]; rfl
    refine ⟨nofun, ?_⟩
    rintro _ ⟨⟩
    rfl
  case called bs hl hb =>
    rw [if_neg (not_not.mpr hl), mapM_eq_pure (hb.imp fun _ _ h => by rw [h]; rfl), pure_bind,
      ExceptT.run_lift, bind_map_left]
    refine ⟨?_, nofun⟩
    rintro _ ⟨⟩
    exact bind_pure _

end Call

section Text

def nameText (n : Nat) : String := "arg" ++ toString n

def numberText (n : Nat) : String := toString n ++ "usize"

-- A value is taken out of the list by its place, as a type.
def takenText (type : TypeExpr) (place : Nat) : String :=
  "::weft_core::utils::values::downcast_value::<" ++ type.text ++ ">(&args[" ++
    numberText place ++ "])?"

-- A statement that passes on the value at a place, by the name of the same number.
inductive Binds : Passing × Nat → String → Prop
  | shared (inner : TypeExpr) (place : Nat) : Binds (.shared inner, place)
    ("let " ++ nameText place ++ " = " ++ takenText inner place ++ ";")
  | owned (type : TypeExpr) (place : Nat) : Binds (.owned type, place)
    ("let " ++ nameText place ++ ": " ++ type.text ++ " = ::core::clone::Clone::clone(&*" ++
      takenText type place ++ ",);")

-- The function is called once, and its result is handed on.
inductive Calls (call : String) : Outcome → String → Prop
  | nothing : Calls call .nothing
    (call ++ "; ::core::result::Result::Ok(::weft_core::utils::values::unit())")
  | asValue : Calls call .asValue
    ("let result = " ++ call ++ "; ::core::result::Result::Ok(result)")
  | typed (type : TypeExpr) : Calls call (.typed type)
    ("let result = " ++ call ++
      "; ::core::result::Result::Ok(::weft_core::utils::values::value(result))")

-- The source text of a method describes the parameters by their labels. It counts the values before
-- it takes them by their places, one after the other, and then it calls the function with all of
-- them in order.
structure Written (owner : String) (ps : List Passing) (m : DeclaredMethod) : Prop where
  description : ∃ middle, m.descriptionText =
    "::weft_core::MethodDescriptor::new(" ++ Text.quoted m.name ++ ")" ++ middle ++
      String.join (ps.map fun p => ".param(" ++ Text.quoted p.type.label ++ ")")
  refusal : ∃ fields, m.refusalText owner =
    "return ::core::result::Result::Err(::weft_core::ContainerError::ArgumentCount " ++ inBraces (
      fields ++ "expected: " ++ numberText ps.length ++ "," ++ "actual: args.len(),") ++ ".into());"
  code : ∃ statements result, List.Forall₂ Binds ps.zipIdx statements ∧
    Calls ("this." ++ m.name ++ "(" ++ ", ".intercalate ((List.range ps.length).map nameText) ++
      ")" ++ if m.fallible then "?" else "") m.outcome result ∧
    m.text owner = ".with_method(" ++ m.descriptionText ++ ", |this: &" ++ owner ++
      ", args: &[::weft_core::Value]| " ++ inBraces (
        "if args.len() != " ++ numberText ps.length ++ inBraces (m.refusalText owner) ++
        String.join statements ++ result) ++ ",)"

theorem bindingText_binds (p : Passing × Nat) :
    Binds p (DeclaredMethod.bindingText ⟨p.2, p.1, p.2⟩) := by
  obtain ⟨p, place⟩ := p
  cases p
  case shared inner => exact .shared inner place
  case owned type   => exact .owned type place

theorem callText_calls (m : DeclaredMethod) :
    Calls ("this." ++ m.name ++ "(" ++ ", ".intercalate (m.signature.arguments.map argumentName) ++
      ")" ++ if m.fallible then "?" else "") m.outcome m.callText := by
  unfold DeclaredMethod.callText
  cases m.outcome
  case nothing => exact .nothing
  case asValue => exact .asValue
  case typed type => exact .typed type

theorem descriptionText_of (hm : m.signature = .of ps) : ∃ middle, m.descriptionText =
    "::weft_core::MethodDescriptor::new(" ++ Text.quoted m.name ++ ")" ++ middle ++
      String.join (ps.map fun p => ".param(" ++ Text.quoted p.type.label ++ ")") := by
  have hl : m.signature.labels.map (fun l => ".param(" ++ Text.quoted l ++ ")") =
      ps.map fun p => ".param(" ++ Text.quoted p.type.label ++ ")" := by
    rw [hm, Signature.of, List.map_map]
    rfl
  have ha (s a b c d e f : String) :
      s ++ a ++ b ++ c ++ d ++ e ++ f = s ++ (a ++ b ++ c ++ d ++ e ++ f) := by
    simp only [String.append_assoc]
  unfold DeclaredMethod.descriptionText
  exact ⟨_, congrArg₂ (· ++ ·) (ha ..) (congrArg String.join hl)⟩

theorem refusalText_of (hm : m.signature = .of ps) (owner : String) :
    ∃ fields, m.refusalText owner =
      "return ::core::result::Result::Err(::weft_core::ContainerError::ArgumentCount " ++ inBraces (
        fields ++ "expected: " ++ numberText ps.length ++ "," ++ "actual: args.len(),") ++
          ".into());" := by
  unfold DeclaredMethod.refusalText
  rw [hm, arity_of]
  exact ⟨_, rfl⟩

theorem written (hm : m.signature = .of ps) (owner : String) : Written owner ps m where
  description := descriptionText_of hm
  refusal := refusalText_of hm owner
  code := by
    have hb : List.Forall₂ Binds ps.zipIdx
        (m.signature.bindings.map DeclaredMethod.bindingText) := by
      rw [hm, Signature.of, List.map_map]
      exact List.forall₂_map_right_iff.mpr (List.forall₂_same.mpr fun p _ => bindingText_binds p)
    have hc := callText_calls m
    rw [hm] at hc
    refine ⟨_, m.callText, hb, hc, ?_⟩
    unfold DeclaredMethod.text
    rw [(congrArg Signature.arity hm).trans (arity_of ps)]
    rfl

-- All methods of a block are declared, one after the other.
theorem text_eq (d : DeclaredMethods) : ∃ head opening tail, d.text = compact (head ++ inBraces (
    opening ++ inBraces ("definition" ++
      String.join (d.methods.map (DeclaredMethod.text d.block.type.text)))) ++
    "::weft_core::inventory::submit! " ++ tail) := by
  unfold DeclaredMethods.text
  exact ⟨_, _, _, rfl⟩

end Text

-- What is called with a list of values: the code around the function, and then the function if the
-- code has arguments for it.
structure Safe (ps : List Passing) (m : DeclaredMethod) : Prop where
  -- Whatever it is to convert a value and to call the function: it takes as many values as there
  -- are arguments, and never a value or a name that is not there.
  runs    : ∀ {n : Type → Type} [Monad n] [LawfulMonad n] [MonadExcept Stop n] {β γ : Type}
    (convert : TypeExpr → Value → n β) (function : List β → n γ) (args : List Value),
    m.signature.run convert function args =
      if args.length ≠ (ps.map Passing.type).length then
        throw (.miscounted (ps.map Passing.type).length args.length)
      else ((ps.map Passing.type).zip args).mapM (fun p => convert p.1 p.2) >>= function
  handles : ∀ {β : Type} (convert : TypeExpr → Value → Except ContainerError β) (args : List Value),
    Handles convert (ps.map Passing.type) args (m.recorded convert args)
  called  : ∀ {σ β : Type} (owner : String) (convert : TypeExpr → Value → Except ContainerError β)
    (function : List β → Action σ Value) (args : List Value) (bs : List β),
    (m.recorded convert args).1 = .ok bs → m.call owner convert function args = function bs
  refused : ∀ {σ β : Type} (owner : String) (convert : TypeExpr → Value → Except ContainerError β)
    (function : List β → Action σ Value) (args : List Value) (expected actual : Nat),
    (m.recorded convert args).1 = .error (.miscounted expected actual) →
      m.call owner convert function args =
        .fail (.container (.argumentCount (owner ++ "." ++ m.name) expected actual))
  unconverted : ∀ {σ β : Type} (owner : String)
    (convert : TypeExpr → Value → Except ContainerError β) (function : List β → Action σ Value)
    (args : List Value) (e : ContainerError),
    (m.recorded convert args).1 = .error (.unconverted e) →
      m.call owner convert function args = .fail (.container e)
  -- What is added to a component is described by the labels, and its code is this.
  defined : ∀ {σ α β : Type} (convert : TypeExpr → Value → Except ContainerError β) (k : Kind α)
    (function : α → List β → Action σ Value) (d : Definition σ),
    (m.define convert k function d).type.methods = d.type.methods ++ [m.description] ∧
      (m.define convert k function d).body? m.name = some fun this args => do
        m.call d.name convert (function (← .check (k.cast this))) args
  written : ∀ owner, Written owner ps m

theorem safe (hm : m.signature = .of ps) : Safe ps m where
  runs convert function args := by rw [hm, run_of]
  handles := recorded_handles hm
  called owner convert function args :=
    (call_of_handles hm owner function (recorded_handles hm convert args)).left
  refused owner convert function args _ _ :=
    (call_of_handles hm owner function (recorded_handles hm convert args)).right _
  unconverted owner convert function args _ :=
    (call_of_handles hm owner function (recorded_handles hm convert args)).right _
  defined convert k function d := ⟨rfl, List.lookup_cons_self⟩
  written := written hm

-- A block of source text is rejected, or the functions of it that can be called on an instance
-- become methods in order, each behind code that only ever calls it with all of its arguments.
theorem wrappers_safe {source : String} (h : Block.parse source = .ok b) :
    ((∃ e, DeclaredMethods.ofBlock b = .error e) ↔ Rejected b) ∧
      ∀ d, DeclaredMethods.ofBlock b = .ok d →
        List.Forall₂ Declares (b.functions.filter (BecomesMethod ·)) d.methods ∧
          (∀ m ∈ d.methods, Safe (m.signature.bindings.map (·.passing)) m) ∧
          ∃ head opening tail, d.text = compact (head ++ inBraces (opening ++ inBraces (
            "definition" ++ String.join (d.methods.map (DeclaredMethod.text b.type.text)))) ++
              "::weft_core::inventory::submit! " ++ tail) := by
  have hb : ∀ f ∈ b.functions, f.TakesTyped := Block.takesTyped_of_parse h
  constructor
  case left =>
    rw [← not_iff_not, ← exists_ofBlock hb]
    cases DeclaredMethods.ofBlock b <;> simp
  case right =>
    intro d hd
    obtain ⟨_, _, ms, hms, rfl⟩ := ofBlock_eq_ok.mp hd
    have hf : ∀ f ∈ b.functions.filter (BecomesMethod ·), f.TakesTyped := fun f hf =>
      hb f (List.mem_of_mem_filter hf)
    have hd := (List.forall₂_and_left _ _).mpr ⟨hf, hms⟩
    refine ⟨hd.imp fun f m ⟨hf, hm⟩ => declares_of_ofFunction hf hm, ?safe, text_eq ⟨b, ms⟩⟩
    case safe =>
      intro m hm
      obtain ⟨f, _, hf, hm⟩ := exists_of_mem (hd.flip) m hm
      obtain ⟨_, _, ps, _, rfl⟩ := (ofFunction_eq_ok hf).mp hm
      have hp : (Signature.of ps).bindings.map (·.passing) = ps := map_passing_of ps
      exact hp.symm ▸ safe rfl

def sellSource : String :=
  "impl Till { pub fn sell(&self, item: Arc<Item>, count: u32) { } fn init(&self) { } }"

theorem wrappers_safe_sell : ∃ b d m, Block.parse sellSource = .ok b ∧ ¬Rejected b ∧
    DeclaredMethods.ofBlock b = .ok d ∧ d.methods = [m] ∧ m.description.params = ["Item", "u32"] ∧
      Safe (m.signature.bindings.map (·.passing)) m := by
  have hp : ((Block.parse sellSource).toOption.bind fun b =>
      (DeclaredMethods.ofBlock b).toOption.map fun d => d.methods.map (·.description.params)) =
        some [["Item", "u32"]] := by
    decide +kernel
  simp only [Option.bind_eq_some_iff, Option.map_eq_some_iff, toOption_eq_some] at hp
  obtain ⟨b, hb, d, hd, hp⟩ := hp
  obtain ⟨m, hm, hp⟩ := List.map_eq_singleton_iff.mp hp
  obtain ⟨hr, hs⟩ := wrappers_safe hb
  refine ⟨b, d, m, hb, ?_, hd, hm, hp, (hs d hd).right.left m (hm ▸ List.mem_singleton_self m)⟩
  intro h
  obtain ⟨e, he⟩ := hr.mpr h
  cases hd.symm.trans he

end Interpose.Declaration
