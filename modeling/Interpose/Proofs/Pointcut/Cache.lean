import Interpose.Pointcut.Cache
import Interpose.Proofs.Keyed
import Interpose.Proofs.Outcome
import Mathlib.Data.List.Dedup

namespace Interpose.Pointcut.Cache

open Outcome

-- What is done with a cache.
inductive Use where
  | read (text : String)
  | clear

def use (c : Cache) : Use → Cache
  | .read text =>
    match c.read text with
    | .ok (_, c') => c'
    | .error _ => c
  | .clear => c.clear

def run (c : Cache) (uses : List Use) : Cache := uses.foldl use c

-- The texts that are asked for, as far as the cache is not cleared behind them.
def remember (asked : List String) : Use → List String
  | .read text => asked ++ [text]
  | .clear => []

def asked (uses : List Use) : List String := uses.foldl remember []

def texts (c : Cache) : List String := c.entries.map (·.1)

def serials (c : Cache) : List Nat := c.entries.map (·.2.1)

-- The ways in which a text is read.
inductive Course (c : Cache) (text : String) : Prop
  | found {n : Nat} {p : Pointcut} (entry : c.entries.lookup text = some (n, p))
      (read : c.read text = .ok ((n, p), c))
  | refused {e : ReadError} (missing : text ∉ c.texts) (parse : parse text = .error e)
      (read : c.read text = .error e)
  | added {p : Pointcut} (missing : text ∉ c.texts) (parse : parse text = .ok p)
      (read : c.read text = .ok ((c.nextSerial, p),
        ⟨c.entries ++ [(text, c.nextSerial, p)], c.nextSerial + 1⟩))

-- The entries are what their texts are read as.
def Faithful (c : Cache) : Prop :=
  ∀ expression n p, c.entries.lookup expression = some (n, p) → parse expression = .ok p

-- No two entries have a text or a number in common, and no number will be given again.
structure Regular (c : Cache) : Prop where
  faithful      : c.Faithful
  texts_nodup   : c.texts.Nodup
  serials_nodup : c.serials.Nodup
  serials_lt    : ∀ n ∈ c.serials, n < c.nextSerial

-- The number was given, but its entry is gone.
structure Retired (n : Nat) (c : Cache) : Prop where
  lt         : n < c.nextSerial
  not_serial : n ∉ c.serials

variable {c c' : Cache} {text text' expression : String} {n n' : Nat} {p p' : Pointcut}

theorem course (c : Cache) (text : String) : Course c text := by
  cases hl : c.entries.lookup text
  case some found => exact .found hl (by rw [Cache.read, hl])
  case none =>
    have hm : text ∉ c.texts := by
      rintro ht
      have ⟨e, he, ht⟩ := List.mem_map.mp ht
      simpa [ht] using List.lookup_eq_none_iff.mp hl e he
    cases hp : parse text
    case error e => exact .refused hm hp (by rw [Cache.read, hl, hp]; rfl)
    case ok p    => exact .added hm hp (by rw [Cache.read, hl, hp]; rfl)

theorem empty_faithful : empty.Faithful :=
  nofun

theorem empty_regular : empty.Regular where
  faithful := empty_faithful
  texts_nodup := .nil
  serials_nodup := .nil
  serials_lt := nofun

theorem lookup_added {l : List (String × Nat × Pointcut)} {entry : Nat × Pointcut}
    (h : (l ++ [(text, entry)]).lookup expression = some (n, p)) :
    l.lookup expression = some (n, p) ∨ expression = text ∧ entry = (n, p) := by
  rw [List.lookup_append, Option.or_eq_some_iff] at h
  refine h.imp_right fun ⟨_, h⟩ => ?_
  simp only [List.lookup_cons, List.lookup_nil] at h
  split at h
  case h_2 => cases h
  case h_1 he => exact ⟨eq_of_beq he, Option.some.inj h⟩

theorem Faithful.read (hc : c.Faithful) (h : c.read expression = .ok ((n, p), c')) :
    parse expression = .ok p ∧ c'.Faithful := by
  cases c.course expression
  case found he hr =>
    cases hr.symm.trans h
    exact ⟨hc _ _ _ he, hc⟩
  case refused hr => cases hr.symm.trans h
  case added hp hr =>
    cases hr.symm.trans h
    refine ⟨hp, fun expression' n' p' hl => ?_⟩
    cases lookup_added hl
    case inl hl => exact hc _ _ _ hl
    case inr he =>
      cases he.right
      exact he.left ▸ hp

section Steps

variable {u : Use} {seen : List String}

theorem use_of_ok (h : c.read text = .ok ((n, p), c')) : c.use (.read text) = c' := by
  rw [use, h]

theorem use_of_error {e : ReadError} (h : c.read text = .error e) : c.use (.read text) = c := by
  rw [use, h]

theorem mem_of_lookup (h : c.entries.lookup text = some (n, p)) : (text, n, p) ∈ c.entries := by
  have ⟨front, back, hs, _⟩ := List.lookup_eq_some_iff.mp h
  exact hs ▸ List.mem_append_right front List.mem_cons_self

theorem text_mem_of_lookup (h : c.entries.lookup text = some (n, p)) : text ∈ c.texts :=
  List.mem_map_of_mem (mem_of_lookup h)

theorem serial_mem_of_lookup (h : c.entries.lookup text = some (n, p)) : n ∈ c.serials :=
  List.mem_map_of_mem (f := (·.2.1)) (mem_of_lookup h)

theorem texts_added {l : List (String × Nat × Pointcut)} :
    texts ⟨l ++ [(text, n, p)], n'⟩ = l.map (·.1) ++ [text] :=
  List.map_append

theorem serials_added {l : List (String × Nat × Pointcut)} :
    serials ⟨l ++ [(text, n, p)], n'⟩ = l.map (·.2.1) ++ [n] :=
  List.map_append

theorem Regular.use (hc : c.Regular) (u : Use) : (c.use u).Regular := by
  cases u
  case clear => exact ⟨nofun, .nil, .nil, nofun⟩
  case read text =>
    cases c.course text
    case found hr   => rwa [use_of_ok hr]
    case refused hr => rwa [use_of_error hr]
    case added hm _ hr =>
      have hf := (hc.faithful.read hr).right
      rw [use_of_ok hr]
      refine ⟨hf, ?texts_nodup, ?serials_nodup, ?serials_lt⟩
      case texts_nodup =>
        rw [texts_added]
        exact List.nodup_append_comm.mpr (.cons hm hc.texts_nodup)
      case serials_nodup =>
        rw [serials_added]
        have hn : c.nextSerial ∉ c.serials := fun hn => Nat.lt_irrefl _ (hc.serials_lt _ hn)
        exact List.nodup_append_comm.mpr (.cons hn hc.serials_nodup)
      case serials_lt =>
        intro n hn
        rw [serials_added] at hn
        cases List.mem_append.mp hn
        case inl hn => exact Nat.lt_succ_of_lt (hc.serials_lt n hn)
        case inr hn => exact List.mem_singleton.mp hn ▸ Nat.lt_succ_self _

-- A number is not given twice.
theorem Retired.use (h : Retired n c) (u : Use) : Retired n (c.use u) := by
  cases u
  case clear => exact ⟨h.lt, nofun⟩
  case read text =>
    cases c.course text
    case found hr   => rwa [use_of_ok hr]
    case refused hr => rwa [use_of_error hr]
    case added hr =>
      rw [use_of_ok hr]
      refine ⟨Nat.lt_succ_of_lt h.lt, fun hn => ?_⟩
      rw [serials_added] at hn
      cases List.mem_append.mp hn
      case inl hn => exact h.not_serial hn
      case inr hn => exact Nat.ne_of_lt h.lt (List.mem_singleton.mp hn)

theorem lookup_use (h : c.entries.lookup text = some (n, p)) :
    (c.use (.read text')).entries.lookup text = some (n, p) := by
  cases c.course text'
  case found hr   => rwa [use_of_ok hr]
  case refused hr => rwa [use_of_error hr]
  case added hr   => rw [use_of_ok hr, List.lookup_append, h, Option.some_or]

-- What is read is in the cache afterwards.
theorem lookup_of_read (h : c.read text = .ok ((n, p), c')) :
    c'.entries.lookup text = some (n, p) := by
  cases c.course text
  case found he hr  => cases hr.symm.trans h; exact he
  case refused hr   => cases hr.symm.trans h
  case added hm _ hr =>
    cases hr.symm.trans h
    have hn : c.entries.lookup text = none := List.lookup_eq_none_iff.mpr fun e he =>
      bne_iff_ne.mpr fun ht => hm (ht ▸ List.mem_map_of_mem he)
    rw [List.lookup_append, hn]
    simp

-- The cache holds what has been asked for and can be read.
def Holds (c : Cache) (seen : List String) : Prop :=
  ∀ text, text ∈ c.texts ↔ text ∈ seen ∧ ∃ p, parse text = .ok p

theorem Holds.use (h : c.Holds seen) (u : Use) :
    (c.use u).Holds (remember seen u) := by
  cases u
  case clear => simp [Holds, texts, Cache.use, Cache.clear, remember]
  case read text =>
    intro text'
    rw [remember, List.mem_append, List.mem_singleton, or_and_right, ← h text']
    cases c.course text
    case found he hr =>
      rw [use_of_ok hr]
      exact ⟨.inl, (Or.elim · id fun ht => ht.left ▸ text_mem_of_lookup he)⟩
    case refused hp hr =>
      rw [use_of_error hr]
      refine ⟨.inl, (Or.elim · id fun ⟨ht, p, hok⟩ => ?_)⟩
      cases hp.symm.trans (ht ▸ hok)
    case added hp hr =>
      rw [use_of_ok hr, texts_added, List.mem_append, List.mem_singleton]
      exact or_congr_right ⟨fun ht => ⟨ht, _, ht ▸ hp⟩, And.left⟩

theorem nextSerial_le_use (c : Cache) (u : Use) : c.nextSerial ≤ (c.use u).nextSerial := by
  cases u
  case clear => exact Nat.le_refl _
  case read text =>
    cases c.course text
    case found hr   => exact (use_of_ok hr).symm ▸ Nat.le_refl _
    case refused hr => exact (use_of_error hr).symm ▸ Nat.le_refl _
    case added hr   => exact (use_of_ok hr).symm ▸ Nat.le_succ _

theorem Faithful.read_eq_error (hc : c.Faithful) {e : ReadError} :
    c.read text = .error e ↔ parse text = .error e := by
  cases c.course text
  case found he hr   => simp [hr, hc _ _ _ he]
  case refused hp hr => simp [hr, hp]
  case added hp hr   => simp [hr, hp]

theorem Faithful.read_of_ok (hc : c.Faithful) (h : parse text = .ok p) :
    ∃ n, c.read text = .ok ((n, p), c.use (.read text)) := by
  cases c.course text
  case found n p' he hr =>
    cases h.symm.trans (hc _ _ _ he)
    exact ⟨n, by rw [use_of_ok hr, hr]⟩
  case refused hp hr => cases hp.symm.trans h
  case added hp hr =>
    cases hp.symm.trans h
    exact ⟨c.nextSerial, by rw [use_of_ok hr, hr]⟩

-- An entry is only found under its own text, and another one has another number.
theorem Regular.serial_eq_iff (hc : c.Regular) (hl : c.entries.lookup text = some (n, p))
    (h : c.read text' = .ok ((n', p'), c')) : n = n' ↔ text = text' := by
  cases c.course text'
  case found he hr =>
    cases hr.symm.trans h
    constructor
    case mp =>
      intro hn
      exact congrArg (·.1) <| List.inj_on_of_nodup_map hc.serials_nodup (mem_of_lookup hl)
        (mem_of_lookup he) hn
    case mpr =>
      rintro rfl
      exact congrArg (·.1) <| Option.some.inj (hl.symm.trans he)
  case refused hr => cases hr.symm.trans h
  case added hm _ hr =>
    cases hr.symm.trans h
    constructor
    case mp =>
      have hn := hc.serials_lt n (serial_mem_of_lookup hl)
      exact fun he => absurd he (Nat.ne_of_lt hn)
    case mpr => exact fun ht => absurd (text_mem_of_lookup hl) (ht ▸ hm)

theorem Retired.ne_of_read (hn : Retired n c) (h : c.read text = .ok ((n', p), c')) : n ≠ n' := by
  cases c.course text
  case found he hr =>
    cases hr.symm.trans h
    exact fun hs => hn.not_serial (hs ▸ serial_mem_of_lookup he)
  case refused hr => cases hr.symm.trans h
  case added hr =>
    cases hr.symm.trans h
    exact Nat.ne_of_lt hn.lt

theorem Holds.size_eq (hc : c.Regular) (h : c.Holds seen) :
    c.size = (seen.filter fun t => (parse t).isOk).dedup.length := by
  have hp : c.texts.Perm (seen.filter fun t => (parse t).isOk).dedup := by
    refine (List.perm_ext_iff_of_nodup hc.texts_nodup (List.nodup_dedup _)).mpr fun t => ?_
    rw [h t, List.mem_dedup, List.mem_filter, isOk_iff]
  rw [← hp.length_eq, texts, List.length_map, size]

end Steps

section Runs

variable {uses : List Use} {seen : List String}

theorem run_append (c : Cache) (uses later : List Use) :
    c.run (uses ++ later) = (c.run uses).run later :=
  List.foldl_append

theorem Regular.run (hc : c.Regular) (uses : List Use) : (c.run uses).Regular := by
  induction uses generalizing c
  case nil            => exact hc
  case cons u uses hi => exact hi (hc.use u)

theorem Holds.run (h : c.Holds seen) (uses : List Use) :
    (c.run uses).Holds (uses.foldl remember seen) := by
  induction uses generalizing c seen
  case nil            => exact h
  case cons u uses hi => exact hi (h.use u)

theorem Retired.run (h : Retired n c) (uses : List Use) : Retired n (c.run uses) := by
  induction uses generalizing c
  case nil            => exact h
  case cons u uses hi => exact hi (h.use u)

theorem lookup_run (h : c.entries.lookup text = some (n, p)) (hu : .clear ∉ uses) :
    (c.run uses).entries.lookup text = some (n, p) := by
  induction uses generalizing c
  case nil => exact h
  case cons u uses hi =>
    cases u
    case clear => cases hu List.mem_cons_self
    case read  => exact hi (lookup_use h) fun hm => hu (List.mem_cons_of_mem _ hm)

theorem retired_run (h : n < c.nextSerial) (hu : .clear ∈ uses) : Retired n (c.run uses) := by
  induction uses generalizing c
  case nil => cases hu
  case cons u uses hi =>
    cases hu
    case head =>
      have hr : Retired n c.clear := ⟨h, nofun⟩
      exact hr.run uses
    case tail hu => exact hi (Nat.lt_of_lt_of_le h (c.nextSerial_le_use u)) hu

end Runs

-- The answers of a cache after it was used.
structure Transparent (uses : List Use) : Prop where
  error     : ∀ text e, (empty.run uses).read text = .error e ↔ parse text = .error e
  unchanged : ∀ text e, parse text = .error e →
    empty.run (uses ++ [.read text]) = empty.run uses
  ok        : ∀ text p, parse text = .ok p ↔
    ∃ n, (empty.run uses).read text = .ok ((n, p), empty.run (uses ++ [.read text]))
  same      : ∀ text n p c later text' n' p' c', (empty.run uses).read text = .ok ((n, p), c) →
    (empty.run (uses ++ .read text :: later)).read text' = .ok ((n', p'), c') →
      (n = n' ↔ text = text' ∧ .clear ∉ later)
  size      : (empty.run uses).size =
    ((asked uses).filter fun text => (parse text).isOk).dedup.length
  isEmpty   : (empty.run uses).isEmpty = true ↔ (empty.run uses).size = 0

-- Whatever a cache was used for, a text is read as it is without one. Two pointcuts that it gives
-- are one and the same just if they are of one text and the cache was not cleared in between.
theorem read_transparent (uses : List Use) : Transparent uses := by
  have hc := empty_regular.run uses
  have hh : (empty.run uses).Holds (asked uses) := Holds.run (by simp [Holds, empty, texts]) uses
  constructor
  case error => exact fun text e => hc.faithful.read_eq_error
  case unchanged =>
    intro text e he
    rw [run_append]
    exact use_of_error (hc.faithful.read_eq_error.mpr he)
  case ok =>
    intro text p
    rw [run_append]
    exact ⟨hc.faithful.read_of_ok, fun ⟨_, h⟩ => (hc.faithful.read h).left⟩
  case same =>
    intro text n p c later text' n' p' c' h h'
    have hl := lookup_of_read h
    have hc' : c.Regular := use_of_ok h ▸ hc.use (.read text)
    have hr : empty.run (uses ++ .read text :: later) = c.run later := by
      rw [run_append, run, List.foldl_cons, use_of_ok h, run]
    rw [hr] at h'
    by_cases hu : .clear ∈ later
    case pos =>
      have hn := retired_run (hc'.serials_lt n (serial_mem_of_lookup hl)) hu
      exact iff_of_false (hn.ne_of_read h') fun ha => ha.right hu
    case neg =>
      rw [(hc'.run later).serial_eq_iff (lookup_run hl hu) h', iff_self_and]
      exact fun _ => hu
  case size => exact hh.size_eq hc
  case isEmpty => rw [Cache.isEmpty, Cache.size, List.isEmpty_iff_length_eq_zero]

-- Texts are told apart by their blanks too, and those that cannot be read are not kept.
example : (empty.run [.read "autowire(*)", .clear, .read "autowire(*)", .read "autowire( *)",
    .read "autowire(", .read "autowire(*)"]).size = 2 := by
  decide +kernel

end Interpose.Pointcut.Cache
