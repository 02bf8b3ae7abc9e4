import Interpose.Weaving.Config
import Interpose.Proofs.Setting.Flattening
import Interpose.Proofs.Toml.Document
import Interpose.Proofs.Toml.Moment

namespace Interpose.Toml.Value

variable {α : Type} {v : Value} {read : Value → Option α} {a default : α} {key : String}
variable {place : Nat} {path : List String} {b d : Bool}

-- The value gives no field by its place.
def Itemless (v : Value) : Prop :=
  ∀ item items, v ≠ .array (item :: items)

instance : Decidable v.Itemless :=
  match v with
  | .array [] => .isTrue nofun
  | .array (item :: items) => .isFalse fun h => h item items rfl
  | .text _ | .integer _ | .float _ | .boolean _ | .moment _ | .table _ => .isTrue nofun

theorem fieldOr_eq_some (hv : v.Itemless) (h : v.fieldOr key place read default = some a) :
    (∃ w, v.get? key = some w ∧ read w = some a) ∨ v.get? key = none ∧ a = default := by
  cases v
  case array items =>
    cases items
    case nil             => cases h; exact .inr ⟨rfl, rfl⟩
    case cons item items => exact absurd rfl (hv item items)
  case table entries =>
    rw [get?]
    cases hw : entries.lookup key <;> simp [fieldOr, field?, hw] at h
    case none   => exact .inr ⟨rfl, h.symm⟩
    case some w => exact .inl ⟨w, rfl, h⟩
  case moment => cases h; exact .inr ⟨rfl, rfl⟩
  all_goals cases h

-- The truth value stands in the place that these keys lead to, or else it is the default.
structure Reads (v : Value) (path : List String) (b default : Bool) : Prop where
  given   : ∀ w, Leads v path w → w = .boolean b
  missing : (∀ w, ¬Leads v path w) → b = default

theorem Reads.of_boolean (h : v.boolean? = some b) : Reads v [] b d := by
  cases v <;> cases h
  constructor
  case given   => exact fun w hw => (leads_nil.mp hw).symm
  case missing => exact fun hn => absurd (.here _) (hn _)

theorem Reads.of_field (hd : v.Distinct) (hv : v.Itemless)
    (h : v.fieldOr key place read default = some a)
    (hr : ∀ w, v.get? key = some w → read w = some a → Reads w path b d)
    (ha : a = default → b = d) : Reads v (key :: path) b d := by
  have hf := fieldOr_eq_some hv h
  constructor
  case given =>
    intro w hl
    have ⟨x, hx, hl⟩ := hd.leads_cons.mp hl
    rw [hx] at hf
    rcases hf with ⟨_, ⟨⟩, hw⟩ | ⟨⟨⟩, _⟩
    exact (hr x hx hw).given w hl
  case missing =>
    intro hn
    rcases hf with ⟨x, hx, hw⟩ | ⟨_, rfl⟩
    case inl => exact (hr x hx hw).missing fun w hl => hn w (hd.leads_cons.mpr ⟨x, hx, hl⟩)
    case inr => exact ha rfl

end Interpose.Toml.Value

namespace Interpose.WeavingConfig

open Toml.Value (Leads Leaf Reads)
open SettingSource (PlainKeys dottedKey dottedKey_eq flatten intercalate_injective ofSettings)

variable {config config' : WeavingConfig} {v document : Toml.Value} {text : String} {b d : Bool}

-- The switches by the names they have in documents.
def switches : List (String × (WeavingConfig → Bool)) :=
  [("enabled", enabled), ("fail-on-dummy-advice", failOnDummy), ("trace-dispatch", traceDispatch)]

-- The keys that lead to a switch.
def place (name : String) : List String :=
  ["weft", "aop", name]

-- Nothing in the document is taken for a switch in one of the two ways only.
structure Unambiguous (document : Toml.Value) : Prop where
  momentless : document.Momentless
  -- In the place of a table, the items of an array are its fields by their order.
  by_keys    : ∀ w ∈ document.get? "weft", w.Itemless ∧ ∀ a ∈ w.get? "aop", a.Itemless
  -- Other keys make the same text if they are empty or if there are dots in them.
  alone      : ∀ s ∈ switches, ∀ path w, Leaf document path w →
    dottedKey path = dottedKey (place s.1) → path = place s.1

theorem eq_of_switches (h : ∀ s ∈ switches, s.2 config = s.2 config') : config = config' := by
  cases config
  cases config'
  simpa [switches] using h

theorem switchOr_single (name : String) (priority : Int) (settings : Settings) (key : String)
    (default : Bool) :
    (Environment.empty.add (ofSettings name priority settings)).switchOr key default =
      ((settings.lookup key).bind (·.asSwitch?)).getD default := by
  simp [Environment.switchOr, Environment.get?, Environment.add, Environment.empty, ofSettings]

theorem ofEnvironment_switches (e : Environment) : ∀ s ∈ switches,
    s.2 (ofEnvironment e) = e.switchOr (dottedKey (place s.1)) (s.2 WeavingConfig.default) := by
  simp only [switches, List.forall_mem_cons]
  exact ⟨rfl, rfl, rfl, nofun⟩

theorem reads_of_ofRecord? (hd : v.Distinct) (hv : v.Itemless)
    (h : ofRecord? v = some config) :
    ∀ s ∈ switches, Reads v [s.1] (s.2 config) (s.2 WeavingConfig.default) := by
  simp only [ofRecord?, Option.bind_eq_bind, Option.bind_eq_some_iff] at h
  obtain ⟨e, he, f, hf, t, ht, ⟨⟩⟩ := h
  have field {key place default b} (h : v.fieldOr key place Toml.Value.boolean? default = some b) :
      Reads v [key] b default :=
    .of_field hd hv h (fun _ _ => .of_boolean) id
  simp only [switches, List.forall_mem_cons]
  exact ⟨field he, field hf, field ht, nofun⟩

theorem reads_of_ofDocument? (hd : document.Distinct) (hv : document.Itemless)
    (hu : Unambiguous document) (h : ofDocument? document = some config) :
    ∀ s ∈ switches, Reads document (place s.1) (s.2 config) (s.2 WeavingConfig.default) := by
  intro s hs
  refine .of_field hd hv h (fun w hw h => ?_) (congrArg s.2)
  have ⟨hvw, hva⟩ := hu.by_keys w hw
  have hdw := hd.of_get? hw
  refine .of_field hdw hvw h (fun a ha h => ?_) (congrArg s.2)
  exact reads_of_ofRecord? (hdw.of_get? ha) (hva a ha) h s hs

-- What becomes the setting of a switch stands in its place in the document.
theorem Unambiguous.leads_of_leaf {s : String × (WeavingConfig → Bool)} {path : List String}
    {w : Toml.Value} (hu : Unambiguous document) (hr : document.resolve = some v)
    (hs : s ∈ switches) (hl : Leaf v path w) (he : dottedKey path = dottedKey (place s.1)) :
    ∃ x, Leads document (place s.1) x ∧ x.resolve = some w := by
  have ⟨x, hx, hw⟩ := (hu.momentless.leaf_resolve hr).mp hl
  obtain rfl := hu.alone s hs path x hx he
  exact ⟨x, hx.leads, hw⟩

theorem switchOr_eq (hu : Unambiguous document) (hr : document.resolve = some v) (name : String)
    (priority : Int) : ∀ s ∈ switches, Reads document (place s.1) b d →
      (Environment.empty.add (ofSettings name priority (flatten "" v []))).switchOr
        (dottedKey (place s.1)) d = b := by
  intro s hs h
  rw [switchOr_single]
  by_cases hw : ∃ w, Leads document (place s.1) w
  case pos =>
    have ⟨w, hw⟩ := hw
    obtain rfl := h.given w hw
    have hl : Leaf v (place s.1) (.boolean b) :=
      (hu.momentless.leaf_resolve hr).mpr ⟨_, ⟨hw, nofun⟩, rfl⟩
    have hl := SettingSource.lookup_flatten hl fun path w he hk => by
      have ⟨x, hx, hw⟩ := hu.leads_of_leaf hr hs he hk
      obtain rfl := h.given x hx
      exact (Option.some.inj hw).symm
    rw [hl]
    rfl
  case neg =>
    have hn : (flatten "" v []).lookup (dottedKey (place s.1)) = none := by
      refine List.lookup_eq_none_iff.mpr fun e hm => bne_iff_ne.mpr fun hk => hw ?_
      have ⟨path, w, hl, he⟩ := SettingSource.keys_flatten.mp (List.mem_map_of_mem hm)
      have ⟨x, hx, _⟩ := hu.leads_of_leaf hr hs hl (he.trans hk.symm)
      exact ⟨x, hx⟩
    rw [hn, h.missing (not_exists.mp hw)]
    rfl

theorem plain_place : ∀ s ∈ switches, ∀ key ∈ place s.1, key ≠ "" ∧ '.' ∉ key.toList := by
  decide

theorem alone_of_plainKeys (h : PlainKeys document) : ∀ s ∈ switches, ∀ path w,
    Leaf document path w → dottedKey path = dottedKey (place s.1) → path = place s.1 := by
  intro s hs path w hl he
  have hp := h.of_leads hl.leads
  have hq := plain_place s hs
  have hn : path ≠ [] := by
    rintro rfl
    have hn : ∀ s ∈ switches, dottedKey [] ≠ dottedKey (place s.1) := by decide
    exact hn s hs he
  rw [dottedKey_eq fun key hk => (hp key hk).left,
    dottedKey_eq fun key hk => (hq key hk).left] at he
  exact intercalate_injective hn (List.cons_ne_nil _ _) (fun key hk => (hp key hk).right)
    (fun key hk => (hq key hk).right) he

-- What the settings of a document give.
def ofSettings? (name text : String) : Option WeavingConfig :=
  (SettingSource.ofDocument? name text).map fun s => ofEnvironment (Environment.empty.add s)

theorem loaders_agree (hp : Toml.parse text = some document)
    (h : ofDocument? document = some config) (hu : Unambiguous document) (name : String) :
    ofSettings? name text = some config := by
  have ⟨hd, entries, ht⟩ := Toml.distinct_of_parse hp
  have ⟨v, hr⟩ := hu.momentless.exists_resolve
  have hs : SettingSource.ofDocument? name text = some (ofSettings name 0 (flatten "" v [])) := by
    simp [SettingSource.ofDocument?, hp, hr]
  rw [ofSettings?, hs, Option.map_some]
  refine congrArg some (eq_of_switches fun s hs => ?_)
  rw [ofEnvironment_switches _ s hs]
  exact switchOr_eq hu hr name 0 s hs (reads_of_ofDocument? hd (ht ▸ nofun) hu h s hs)

def shopDocument : String :=
  "title = \"shop\"\n[weft.aop]\nenabled = false\nports = [80]\n[weft.log]\nsince = 2026-02-28"

theorem loaders_agree_shop : ∃ document config, Toml.parse shopDocument = some document ∧
    ofDocument? document = some config ∧ Unambiguous document ∧
    ofSettings? "t.toml" shopDocument = some config := by
  have h : ∃ document ∈ Toml.parse shopDocument,
      ofDocument? document = some { WeavingConfig.default with enabled := false } ∧
      document.Momentless ∧ PlainKeys document ∧
      ∀ w ∈ document.get? "weft", w.Itemless ∧ ∀ a ∈ w.get? "aop", a.Itemless := by
    decide +kernel
  have ⟨document, hp, hc, hm, hk, ha⟩ := h
  have hu : Unambiguous document := ⟨hm, ha, alone_of_plainKeys hk⟩
  exact ⟨document, _, hp, hc, hu, loaders_agree hp hc hu "t.toml"⟩

theorem loaders_disagree :
    let off := { WeavingConfig.default with enabled := false }
    let both text := ((Toml.parse text).bind ofDocument?, ofSettings? "t.toml" text)
    both "\"weft.aop.enabled\" = false" = (some WeavingConfig.default, some off) ∧
    both "weft = [[false]]" = (some off, some WeavingConfig.default) ∧
    both "weft.aop = [false]" = (some off, some WeavingConfig.default) := by
  decide +kernel

end Interpose.WeavingConfig
