import Mathlib.Data.List.Basic

/-!
# Command-line options

Words are read from the left.  Each is an option that stands alone or takes the next word for its
value, and updates a configuration; the first word that is none, has no value or a bad one is a
fault.

* `Item` — an option with its words.
* `readWords_append` — after the words of items the rest is read with what they have made of the
  configuration.
* `readWords_ok_iff`, `readWords_error_iff` — what is read is a sequence of items, or breaks off
  after one.
-/

namespace Options

variable {σ : Type*}

/-- What a word stands for. -/
inductive Kind (σ : Type*) where
  | unknown
  | plain (update : σ → σ)
  | valued (update : String → Option (σ → σ))

/-- Why the words are not read; each fault names the option. -/
inductive Fault where
  | unknown (word : String)
  | missing (word : String)
  | invalid (word : String)
  deriving DecidableEq

variable (options : String → Kind σ)

def readWords (s : σ) : List String → Except Fault σ
  | [] => .ok s
  | word :: rest =>
    match options word with
    | .unknown => .error (.unknown word)
    | .plain f => readWords (f s) rest
    | .valued g =>
      match rest with
      | [] => .error (.missing word)
      | value :: rest =>
        match g value with
        | none => .error (.invalid word)
        | some f => readWords (f s) rest

/-- The words of one option, and what it does. -/
inductive Reads : List String → (σ → σ) → Prop
  | plain {word : String} {f : σ → σ} (h : options word = .plain f) : Reads [word] f
  | valued {word value : String} {g : String → Option (σ → σ)} {f : σ → σ}
      (h : options word = .valued g) (hv : g value = some f) : Reads [word, value] f

/-- An option as it is written. -/
structure Item where
  words : List String
  update : σ → σ
  reads : Reads options words update

/-- The words break off here. -/
inductive Faulty : List String → Fault → Prop
  | unknown {word : String} {rest : List String} (h : options word = .unknown) :
      Faulty (word :: rest) (.unknown word)
  | missing {word : String} {g : String → Option (σ → σ)} (h : options word = .valued g) :
      Faulty [word] (.missing word)
  | invalid {word value : String} {rest : List String} {g : String → Option (σ → σ)}
      (h : options word = .valued g) (hv : g value = none) :
      Faulty (word :: value :: rest) (.invalid word)

variable {options}

/-- The words of items. -/
def words (items : List (Item options)) : List String := items.flatMap Item.words

/-- What items make of a configuration. -/
def apply (items : List (Item options)) (s : σ) : σ := items.foldl (fun s item => item.update s) s

variable {s s' : σ} {ws rest args : List String} {f : σ → σ} {fault : Fault}

theorem readWords_reads (h : Reads options ws f) :
    readWords options s (ws ++ rest) = readWords options (f s) rest := by
  cases h with
  | plain h => rw [List.singleton_append, readWords, h]
  | valued h hv =>
    rw [List.cons_append, List.singleton_append, readWords, h]
    simp only [hv]

/-- **Items are read one after the other.** -/
theorem readWords_append (items : List (Item options)) :
    readWords options s (words items ++ rest) = readWords options (apply items s) rest := by
  induction items generalizing s with
  | nil => rfl
  | cons item items ih =>
    have hwords : words (item :: items) ++ rest = item.words ++ (words items ++ rest) := by
      simp [words]
    rw [hwords, readWords_reads item.reads, ih]
    rfl

theorem readWords_faulty (h : Faulty options rest fault) :
    readWords options s rest = .error fault := by
  cases h with
  | unknown h => rw [readWords, h]
  | missing h => rw [readWords, h]
  | invalid h hv => rw [readWords, h]; simp only [hv]

/-- The words are those of items. -/
def Wellformed (options : String → Kind σ) (args : List String) : Prop :=
  ∃ items : List (Item options), args = words items

/-- The words are those of items, and then there is a fault. -/
def Broken (options : String → Kind σ) (args : List String) (fault : Fault) : Prop :=
  ∃ (items : List (Item options)) (rest : List String),
    args = words items ++ rest ∧ Faulty options rest fault

theorem Wellformed.cons (item : Item options) (h : Wellformed options rest) :
    Wellformed options (item.words ++ rest) := by
  obtain ⟨items, rfl⟩ := h
  exact ⟨item :: items, by simp [words]⟩

theorem Broken.cons (item : Item options) (h : Broken options rest fault) :
    Broken options (item.words ++ rest) fault := by
  obtain ⟨items, rest', rfl, hf⟩ := h
  exact ⟨item :: items, rest', by simp [words], hf⟩

/-- There is no third possibility. -/
theorem wellformed_or_broken (options : String → Kind σ) :
    ∀ args, Wellformed options args ∨ ∃ fault, Broken options args fault
  | [] => .inl ⟨[], rfl⟩
  | word :: rest =>
    match hk : options word, rest with
    | .unknown, _ => .inr ⟨_, [], _, rfl, .unknown hk⟩
    | .plain f, rest =>
      (wellformed_or_broken options rest).imp (.cons ⟨[word], f, .plain hk⟩)
        fun ⟨fault, h⟩ => ⟨fault, h.cons ⟨[word], f, .plain hk⟩⟩
    | .valued _, [] => .inr ⟨_, [], _, rfl, .missing hk⟩
    | .valued g, value :: rest =>
      match hv : g value with
      | none => .inr ⟨_, [], _, rfl, .invalid hk hv⟩
      | some f =>
        (wellformed_or_broken options rest).imp (.cons ⟨[word, value], f, .valued hk hv⟩)
          fun ⟨fault, h⟩ => ⟨fault, h.cons ⟨[word, value], f, .valued hk hv⟩⟩

theorem readWords_words (items : List (Item options)) :
    readWords options s (words items) = .ok (apply items s) := by
  have hread : readWords options s (words items ++ []) = _ := readWords_append items
  rw [List.append_nil] at hread
  exact hread

theorem readWords_broken (h : Broken options args fault) :
    readWords options s args = .error fault := by
  obtain ⟨items, rest, rfl, hf⟩ := h
  rw [readWords_append, readWords_faulty hf]

/-- **What is read is a sequence of items.** -/
theorem readWords_ok_iff :
    readWords options s args = .ok s' ↔ ∃ items : List (Item options), args = words items ∧
      s' = apply items s := by
  constructor
  · intro h
    rcases wellformed_or_broken options args with ⟨items, rfl⟩ | ⟨fault, hbroken⟩
    · rw [readWords_words] at h
      exact ⟨items, rfl, (Except.ok.inj h).symm⟩
    · rw [readWords_broken hbroken] at h
      cases h
  · rintro ⟨items, rfl, rfl⟩
    exact readWords_words items

/-- **What is not read is a sequence of items and then a fault**, and that is the fault reported. -/
theorem readWords_error_iff : readWords options s args = .error fault ↔
    Broken options args fault := by
  refine ⟨fun h => ?_, readWords_broken⟩
  rcases wellformed_or_broken options args with ⟨items, rfl⟩ | ⟨fault', hbroken⟩
  · rw [readWords_words] at h
    cases h
  · rw [readWords_broken hbroken] at h
    cases h
    exact hbroken

end Options
