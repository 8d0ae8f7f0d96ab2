import Postmortem.Backend.Guardrails.Injection
import Postmortem.Backend.Bedrock

/-!
# What screening leaves in the prompt

A text is `Clean` where no injection pattern matches it, it is not overlong and it holds no control or
format character. `guardUntrustedText` returns clean texts only (`guardUntrustedText_clean`), and the
walk over a recalled value cleans every string in it but the keys of its objects (`scanned_strings`,
`scanned_keys`). The severity of a signal is not screened either. `screening_complete_iff` says that
these two are all the prompt is missing.
-/

namespace Postmortem

/-- What screening promises of a text. -/
structure Clean (rt : Runtime) (s : String) : Prop where
  noInjection : ∀ p ∈ injectionPatterns, p.search rt.isWord s = false
  bounded : s.length ≤ maxUntrustedFieldChars
  visible : ∀ c ∈ s.toList, isControl c = false ∧ rt.isFormat c = false

instance {rt s} : Decidable (Clean rt s) :=
  decidable_of_iff ((∀ p ∈ injectionPatterns, p.search rt.isWord s = false) ∧
      s.length ≤ maxUntrustedFieldChars ∧ s.toList.all (fun c => !isControl c && !rt.isFormat c) = true)
    ⟨fun h => ⟨h.1, h.2.1, by simpa using h.2.2⟩,
      fun h => ⟨h.noInjection, h.bounded, by simpa using h.visible⟩⟩

namespace Json

mutual
/-- The strings in a value, object keys included. -/
def strings : Json → List String
  | str s => [s]
  | arr items => stringsItems items
  | obj fields => stringsFields fields
  | _ => []
def stringsItems : List Json → List String
  | [] => []
  | v :: items => strings v ++ stringsItems items
def stringsFields : Dict → List String
  | [] => []
  | (key, v) :: fields => key :: strings v ++ stringsFields fields
end

mutual
/-- The keys of the objects in a value. -/
def keys : Json → List String
  | arr items => keysItems items
  | obj fields => keysFields fields
  | _ => []
def keysItems : List Json → List String
  | [] => []
  | v :: items => keys v ++ keysItems items
def keysFields : Dict → List String
  | [] => []
  | (key, v) :: fields => key :: keys v ++ keysFields fields
end

/-- The fields of an object. -/
def fields : Json → Dict
  | obj fields => fields
  | _ => []

/-- The items of a list. -/
def items : Json → List Json
  | arr items => items
  | _ => []

lemma mem_stringsFields {d : Dict} {s} :
    s ∈ stringsFields d ↔ ∃ f ∈ d, s = f.1 ∨ s ∈ f.2.strings := by
  induction d with
  | nil => simp [stringsFields]
  | cons f d ih =>
    obtain ⟨key, v⟩ := f
    simp [stringsFields, ih, or_assoc]

lemma mem_stringsItems {l : List Json} {s} : s ∈ stringsItems l ↔ ∃ v ∈ l, s ∈ v.strings := by
  induction l with
  | nil => simp [stringsItems]
  | cons v l ih => simp [stringsItems, ih]

lemma mem_stringsFields_getD {d : Dict} {key default s} (h : s ∈ (d.getD key default).strings) :
    s ∈ stringsFields d ∨ s ∈ default.strings := by
  unfold Dict.getD at h
  cases found : Assoc.get d key with
  | none =>
    rw [found] at h
    exact .inr h
  | some v =>
    rw [found] at h
    exact .inl (mem_stringsFields.mpr ⟨_, Assoc.mem_of_get found, .inr h⟩)

end Json

section screening

variable {rt : Runtime}

lemma injectionPatterns_empty {word} : (injectionPatterns.any fun p => p.search word "") = false := rfl

/-- What the guard returns is clean. -/
lemma guardUntrustedText_clean {field text s} (h : guardUntrustedText rt field text = .ok s) :
    Clean rt s := by
  unfold guardUntrustedText at h
  simp only at h
  split at h
  case isTrue => cases h
  case isFalse short =>
    split at h
    case isTrue => cases h
    case isFalse safe =>
      generalize e : scrubControlCharacters rt text = scrubbed at short safe h
      cases h
      constructor
      case noInjection =>
        have none : (injectionPatterns.any fun p => p.search rt.isWord s) = false := by
          by_cases blank : s = ""
          · rw [blank]
            exact injectionPatterns_empty
          · simpa [containsToolCallInjection, blank] using safe
        simpa using none
      case bounded => exact Nat.le_of_not_gt short
      case visible =>
        rw [← e]
        intro c hc
        simp only [scrubControlCharacters, normalizeUntrustedText, String.toList_ofList,
          List.mem_filter, Bool.not_eq_true'] at hc
        exact ⟨hc.2, hc.1.2⟩

mutual
/-- The walk keeps the keys and cleans every other string. -/
lemma scanned_strings : ∀ v field v', scanUntrustedValue rt field v = .ok v' →
    ∀ s ∈ v'.strings, s ∈ v.keys ∨ Clean rt s
  | .str t => by
    intro field v' h
    rw [scanUntrustedValue] at h
    obtain ⟨u, hu, e⟩ := bind_ok h
    cases e
    intro s hs
    rw [Json.strings] at hs
    obtain rfl := List.mem_singleton.mp hs
    exact .inr (guardUntrustedText_clean hu)
  | .arr items => by
    intro field v' h
    rw [scanUntrustedValue] at h
    obtain ⟨items', hi, e⟩ := bind_ok h
    cases e
    rw [Json.strings, Json.keys]
    exact scanned_stringsItems items field items' hi
  | .obj fields => by
    intro field v' h
    rw [scanUntrustedValue] at h
    obtain ⟨fields', hf, e⟩ := bind_ok h
    cases e
    rw [Json.strings, Json.keys]
    exact scanned_stringsFields fields field fields' hf
  | .null => by
    intro field v' h
    simp only [scanUntrustedValue] at h
    cases h
    simp [Json.strings]
  | .bool _ => by
    intro field v' h
    simp only [scanUntrustedValue] at h
    cases h
    simp [Json.strings]
  | .int _ => by
    intro field v' h
    simp only [scanUntrustedValue] at h
    cases h
    simp [Json.strings]
  | .float _ => by
    intro field v' h
    simp only [scanUntrustedValue] at h
    cases h
    simp [Json.strings]
lemma scanned_stringsItems : ∀ items field items', scanUntrustedItems rt field items = .ok items' →
    ∀ s ∈ Json.stringsItems items', s ∈ Json.keysItems items ∨ Clean rt s
  | [] => by
    intro field items' h
    cases h
    simp [Json.stringsItems]
  | v :: items => by
    intro field _ h
    rw [scanUntrustedItems] at h
    obtain ⟨v', hv, h⟩ := bind_ok h
    obtain ⟨items', hi, e⟩ := bind_ok h
    cases e
    have head := scanned_strings v field v' hv
    have tail := scanned_stringsItems items field items' hi
    intro s hs
    rw [Json.stringsItems] at hs
    rw [Json.keysItems]
    rcases List.mem_append.mp hs with hs | hs
    · exact (head s hs).imp (List.mem_append_left _) id
    · exact (tail s hs).imp (List.mem_append_right _) id
lemma scanned_stringsFields : ∀ fields field fields',
    scanUntrustedFields rt field fields = .ok fields' →
    ∀ s ∈ Json.stringsFields fields', s ∈ Json.keysFields fields ∨ Clean rt s
  | [] => by
    intro field fields' h
    cases h
    simp [Json.stringsFields]
  | (key, v) :: fields => by
    intro field _ h
    rw [scanUntrustedFields] at h
    obtain ⟨v', hv, h⟩ := bind_ok h
    obtain ⟨fields', hf, e⟩ := bind_ok h
    cases e
    have head := scanned_strings v (field ++ "." ++ key) v' hv
    have tail := scanned_stringsFields fields field fields' hf
    intro s hs
    rw [Json.stringsFields] at hs
    rw [Json.keysFields]
    simp only [List.cons_append, List.mem_cons, List.mem_append] at hs ⊢
    rcases hs with own | hs | hs
    · exact .inl (.inl own)
    · exact (head s hs).imp (fun k => .inr (.inl k)) id
    · exact (tail s hs).imp (fun k => .inr (.inr k)) id
end

mutual
/-- The keys stay in the value as they were. -/
lemma scanned_keys : ∀ v field v', scanUntrustedValue rt field v = .ok v' →
    ∀ k ∈ v.keys, k ∈ v'.strings
  | .arr items => by
    intro field v' h
    rw [scanUntrustedValue] at h
    obtain ⟨items', hi, e⟩ := bind_ok h
    cases e
    rw [Json.strings, Json.keys]
    exact scanned_keysItems items field items' hi
  | .obj fields => by
    intro field v' h
    rw [scanUntrustedValue] at h
    obtain ⟨fields', hf, e⟩ := bind_ok h
    cases e
    rw [Json.strings, Json.keys]
    exact scanned_keysFields fields field fields' hf
  | .str _ => by simp [Json.keys]
  | .null => by simp [Json.keys]
  | .bool _ => by simp [Json.keys]
  | .int _ => by simp [Json.keys]
  | .float _ => by simp [Json.keys]
lemma scanned_keysItems : ∀ items field items', scanUntrustedItems rt field items = .ok items' →
    ∀ k ∈ Json.keysItems items, k ∈ Json.stringsItems items'
  | [] => by simp [Json.keysItems]
  | v :: items => by
    intro field _ h
    rw [scanUntrustedItems] at h
    obtain ⟨v', hv, h⟩ := bind_ok h
    obtain ⟨items', hi, e⟩ := bind_ok h
    cases e
    have head := scanned_keys v field v' hv
    have tail := scanned_keysItems items field items' hi
    intro k hk
    rw [Json.keysItems] at hk
    rw [Json.stringsItems]
    rcases List.mem_append.mp hk with hk | hk
    · exact List.mem_append_left _ (head k hk)
    · exact List.mem_append_right _ (tail k hk)
lemma scanned_keysFields : ∀ fields field fields',
    scanUntrustedFields rt field fields = .ok fields' →
    ∀ k ∈ Json.keysFields fields, k ∈ Json.stringsFields fields'
  | [] => by simp [Json.keysFields]
  | (key, v) :: fields => by
    intro field _ h
    rw [scanUntrustedFields] at h
    obtain ⟨v', hv, h⟩ := bind_ok h
    obtain ⟨fields', hf, e⟩ := bind_ok h
    cases e
    have head := scanned_keys v (field ++ "." ++ key) v' hv
    have tail := scanned_keysFields fields field fields' hf
    intro k hk
    rw [Json.keysFields] at hk
    rw [Json.stringsFields]
    simp only [List.cons_append, List.mem_cons, List.mem_append] at hk ⊢
    rcases hk with own | hk | hk
    · exact .inl own
    · exact .inr (.inl (head k hk))
    · exact .inr (.inr (tail k hk))
end

/-- What screening does to a candidate. -/
lemma guardUntrustedMemoryCandidate_spec {c c'} (h : guardUntrustedMemoryCandidate rt c = .ok c') :
    Clean rt c'.content ∧ scanUntrustedItems rt "memory.steps" c.steps = .ok c'.steps ∧
      scanUntrustedFields rt "memory.metadata" c.metadata = .ok c'.metadata := by
  obtain ⟨content, hc, h⟩ := bind_ok h
  obtain ⟨steps, hs, h⟩ := bind_ok h
  obtain ⟨metadata, hm, e⟩ := bind_ok h
  cases e
  exact ⟨guardUntrustedText_clean hc, hs, hm⟩

/-- The screened bundle has the candidates of the bundle, screened. -/
lemma guardUntrustedRecallBundle_spec {bundle memory}
    (h : guardUntrustedRecallBundle rt bundle = .ok memory) :
    (∀ c' ∈ memory.allCandidates, ∃ c ∈ bundle.allCandidates,
        guardUntrustedMemoryCandidate rt c = .ok c') ∧
      ∀ c ∈ bundle.allCandidates, ∃ c' ∈ memory.allCandidates,
        guardUntrustedMemoryCandidate rt c = .ok c' := by
  obtain ⟨episodes, he, h⟩ := bind_ok h
  obtain ⟨facts, hf, h⟩ := bind_ok h
  obtain ⟨runbooks, hr, e⟩ := bind_ok h
  cases e
  obtain ⟨eb, ef⟩ := mapM_ok he
  obtain ⟨fb, ff⟩ := mapM_ok hf
  obtain ⟨rb, rf⟩ := mapM_ok hr
  simp only [RecallBundle.allCandidates, List.mem_append]
  constructor
  · rintro c' ((hc | hc) | hc)
    · obtain ⟨c, hc, e⟩ := eb c' hc
      exact ⟨c, .inl (.inl hc), e⟩
    · obtain ⟨c, hc, e⟩ := fb c' hc
      exact ⟨c, .inl (.inr hc), e⟩
    · obtain ⟨c, hc, e⟩ := rb c' hc
      exact ⟨c, .inr hc, e⟩
  · rintro c ((hc | hc) | hc)
    · obtain ⟨c', hc, e⟩ := ef c hc
      exact ⟨c', .inl (.inl hc), e⟩
    · obtain ⟨c', hc, e⟩ := ff c hc
      exact ⟨c', .inl (.inr hc), e⟩
    · obtain ⟨c', hc, e⟩ := rf c hc
      exact ⟨c', .inr hc, e⟩

/-- What screening does to a signal. -/
lemma sanitizeSignal_spec {signal signal'} (h : sanitizeSignal rt signal = .ok signal') :
    Clean rt signal'.summary ∧ (∀ s, signal'.errorSignature = some s → Clean rt s) ∧
      signal'.severity = signal.severity := by
  obtain ⟨summary, hs, h⟩ := bind_ok h
  obtain ⟨signature, he, h⟩ := bind_ok h
  obtain ⟨tags, _, h⟩ := bind_ok h
  obtain ⟨_, _, e⟩ := bind_ok h
  cases e
  refine ⟨guardUntrustedText_clean hs, ?_, rfl⟩
  rintro s rfl
  cases old : signal.errorSignature with
  | none =>
    rw [old] at he
    cases he
  | some text =>
    rw [old] at he
    obtain ⟨t, ht, e⟩ := bind_ok he
    cases e
    exact guardUntrustedText_clean ht

end screening

/-! ## The strings of the prompt -/

/-- The strings of the prompt that come from a caller or from recalled memory, by the fields they
stand in. -/
def untrusted (prompt : Dict) : List String :=
  (["severity", "summary", "error_signature"].flatMap fun field =>
      (Dict.get (prompt.get "incident").fields field).strings) ++
    (prompt.get "retrieved_memory").items.flatMap fun entry =>
      ["content", "actionable", "steps", "metadata"].flatMap fun field =>
        (Dict.get entry.fields field).strings

/-- The names of the prompt's own fields. -/
def promptFields : List String := [
  "incident", "incident_id", "service_id", "severity", "summary", "error_signature",
  "retrieved_memory", "memory_id", "kind", "content", "similarity", "success_rate", "confidence",
  "ranking_score", "provenance_ids", "actionable", "runbook_id", "steps", "metadata"]

/-- The strings of one entry. -/
lemma mem_reasoningItem {c s} :
    s ∈ (["content", "actionable", "steps", "metadata"].flatMap fun field =>
      (Dict.get (reasoningItem c) field).strings) ↔
      s = c.content ∨ s ∈ Json.stringsItems c.steps ∨ s ∈ Json.stringsFields c.metadata := by
  have e : (["content", "actionable", "steps", "metadata"].flatMap fun field =>
      (Dict.get (reasoningItem c) field).strings) =
        [c.content] ++ ((Dict.getD c.metadata "actionable" (.bool true)).strings ++
          (Json.stringsItems c.steps ++ (Json.stringsFields c.metadata ++ []))) := by
    rfl
  have actionable : s ∈ (Dict.getD c.metadata "actionable" (.bool true)).strings →
      s ∈ Json.stringsFields c.metadata := by
    intro h
    rcases Json.mem_stringsFields_getD h with h | h
    · exact h
    · rw [Json.strings] at h
      · cases h
      all_goals simp
  rw [e]
  simp only [List.mem_append, List.mem_singleton, List.not_mem_nil, or_false]
  constructor
  · rintro (h | h | h | h)
    · exact .inl h
    · exact .inr (.inr (actionable h))
    · exact .inr (.inl h)
    · exact .inr (.inr h)
  · rintro (h | h | h)
    · exact .inl h
    · exact .inr (.inr (.inl h))
    · exact .inr (.inr (.inr h))

/-- Which strings these are. -/
lemma mem_untrusted {signal memory s} : s ∈ untrusted (reasoningInput signal memory) ↔
    s = signal.severity ∨ s = signal.summary ∨ signal.errorSignature = some s ∨
      ∃ c ∈ memory.allCandidates,
        s = c.content ∨ s ∈ Json.stringsItems c.steps ∨ s ∈ Json.stringsFields c.metadata := by
  have incident : s ∈ (["severity", "summary", "error_signature"].flatMap fun field =>
      (Dict.get (Dict.get (reasoningInput signal memory) "incident").fields field).strings) ↔
        s = signal.severity ∨ s = signal.summary ∨ signal.errorSignature = some s := by
    have e : (["severity", "summary", "error_signature"].flatMap fun field =>
        (Dict.get (Dict.get (reasoningInput signal memory) "incident").fields field).strings) =
          [signal.severity] ++ ([signal.summary] ++ ((Json.ofText? signal.errorSignature).strings ++ [])) := by
      rfl
    rw [e]
    cases signal.errorSignature with
    | none => simp [Json.ofText?, Json.strings]
    | some text => simp [Json.ofText?, Json.strings, eq_comm]
  have entries : (Dict.get (reasoningInput signal memory) "retrieved_memory").items =
      memory.allCandidates.map fun c => .obj (reasoningItem c) := by
    rfl
  rw [untrusted, List.mem_append, incident, entries, or_assoc, or_assoc]
  have items : s ∈ ((memory.allCandidates.map fun c => Json.obj (reasoningItem c)).flatMap fun entry =>
      ["content", "actionable", "steps", "metadata"].flatMap fun field =>
        (Dict.get entry.fields field).strings) ↔ ∃ c ∈ memory.allCandidates,
        s = c.content ∨ s ∈ Json.stringsItems c.steps ∨ s ∈ Json.stringsFields c.metadata := by
    rw [List.flatMap_map, List.mem_flatMap]
    exact exists_congr fun c => and_congr_right fun _ => mem_reasoningItem
  rw [items]

/-- A string the program itself puts into the prompt: the name of a field, an identifier or a kind of
memory. -/
def Typed (s : String) : Prop :=
  s ∈ promptFields ∨ (∃ id : Uuid, s = id.text) ∨ ∃ kind : MemoryKind, s = kind.value

lemma typed_id? {id : Option Uuid} : ∀ s ∈ (Json.ofUuid? id).strings, Typed s := by
  cases id with
  | none => simp [Json.ofUuid?, Json.ofText?, Json.strings]
  | some id =>
    intro s hs
    rw [Json.ofUuid?, Option.map_some, Json.ofText?, Json.strings] at hs
    exact .inr (.inl ⟨id, List.mem_singleton.mp hs⟩)

lemma reasoningItem_strings {c s} (h : s ∈ Json.stringsFields (reasoningItem c)) :
    Typed s ∨ s = c.content ∨ s ∈ Json.stringsItems c.steps ∨ s ∈ Json.stringsFields c.metadata := by
  obtain ⟨⟨key, v⟩, hf, hs⟩ := Json.mem_stringsFields.mp h
  rcases hs with rfl | hs
  · have names : (reasoningItem c).map Prod.fst ⊆ promptFields := by simp [reasoningItem, promptFields]
    exact .inl (.inl (names (List.mem_map.mpr ⟨_, hf, rfl⟩)))
  · simp only [reasoningItem, List.mem_cons, Prod.mk.injEq, List.not_mem_nil, or_false] at hf
    rcases hf with ⟨_, rfl⟩ | ⟨_, rfl⟩ | ⟨_, rfl⟩ | ⟨_, rfl⟩ | ⟨_, rfl⟩ | ⟨_, rfl⟩ | ⟨_, rfl⟩ |
      ⟨_, rfl⟩ | ⟨_, rfl⟩ | ⟨_, rfl⟩ | ⟨_, rfl⟩ | ⟨_, rfl⟩
    · exact .inl (.inr (.inl ⟨c.memoryId, by simpa [Json.strings] using hs⟩))
    · exact .inl (.inr (.inr ⟨c.kind, by simpa [Json.strings] using hs⟩))
    · exact .inr (.inl (by simpa [Json.strings] using hs))
    · simp [Json.strings] at hs
    · simp [Json.strings] at hs
    · simp [Json.strings] at hs
    · simp [Json.strings] at hs
    · rw [Json.strings] at hs
      obtain ⟨v, hv, hs⟩ := Json.mem_stringsItems.mp hs
      obtain ⟨id, _, rfl⟩ := List.mem_map.mp hv
      exact .inl (.inr (.inl ⟨id, by simpa [Json.strings] using hs⟩))
    · rcases Json.mem_stringsFields_getD hs with hs | hs
      · exact .inr (.inr (.inr hs))
      · simp [Json.strings] at hs
    · exact .inl (typed_id? s hs)
    · exact .inr (.inr (.inl (by simpa [Json.strings] using hs)))
    · exact .inr (.inr (.inr (by simpa [Json.strings] using hs)))

lemma reasoningIncident_strings {signal s} (h : s ∈ Json.stringsFields (reasoningIncident signal)) :
    Typed s ∨ s = signal.severity ∨ s = signal.summary ∨ signal.errorSignature = some s := by
  obtain ⟨⟨key, v⟩, hf, hs⟩ := Json.mem_stringsFields.mp h
  rcases hs with rfl | hs
  · have names : (reasoningIncident signal).map Prod.fst ⊆ promptFields := by
      simp [reasoningIncident, promptFields]
    exact .inl (.inl (names (List.mem_map.mpr ⟨_, hf, rfl⟩)))
  · simp only [reasoningIncident, List.mem_cons, Prod.mk.injEq, List.not_mem_nil, or_false] at hf
    rcases hf with ⟨_, rfl⟩ | ⟨_, rfl⟩ | ⟨_, rfl⟩ | ⟨_, rfl⟩ | ⟨_, rfl⟩
    · exact .inl (.inr (.inl ⟨signal.incidentId, by simpa [Json.strings] using hs⟩))
    · exact .inl (.inr (.inl ⟨signal.serviceId, by simpa [Json.strings] using hs⟩))
    · exact .inr (.inl (by simpa [Json.strings] using hs))
    · exact .inr (.inr (.inl (by simpa [Json.strings] using hs)))
    · cases signature : signal.errorSignature with
      | none =>
        rw [signature] at hs
        simp [Json.ofText?, Json.strings] at hs
      | some text =>
        rw [signature, Json.ofText?, Json.strings] at hs
        obtain rfl := List.mem_singleton.mp hs
        exact .inr (.inr (.inr rfl))

/-- Every other string of the prompt is typed. -/
theorem prompt_strings {signal memory s}
    (h : s ∈ Json.stringsFields (reasoningInput signal memory)) :
    s ∈ untrusted (reasoningInput signal memory) ∨ Typed s := by
  obtain ⟨⟨key, v⟩, hf, hs⟩ := Json.mem_stringsFields.mp h
  rcases hs with rfl | hs
  · have names : (reasoningInput signal memory).map Prod.fst ⊆ promptFields := by
      simp [reasoningInput, promptFields]
    exact .inr (.inl (names (List.mem_map.mpr ⟨_, hf, rfl⟩)))
  · simp only [reasoningInput, List.mem_cons, Prod.mk.injEq, List.not_mem_nil, or_false] at hf
    rcases hf with ⟨_, rfl⟩ | ⟨_, rfl⟩
    · rw [Json.strings] at hs
      rcases reasoningIncident_strings hs with typed | severity | summary | signature
      · exact .inr typed
      · exact .inl (mem_untrusted.mpr (.inl severity))
      · exact .inl (mem_untrusted.mpr (.inr (.inl summary)))
      · exact .inl (mem_untrusted.mpr (.inr (.inr (.inl signature))))
    · rw [Json.strings] at hs
      obtain ⟨v, hv, hs⟩ := Json.mem_stringsItems.mp hs
      obtain ⟨c, hc, rfl⟩ := List.mem_map.mp hv
      rw [Json.strings] at hs
      rcases reasoningItem_strings hs with typed | h
      · exact .inr typed
      · exact .inl (mem_untrusted.mpr (.inr (.inr (.inr ⟨c, hc, h⟩))))

/-- The keys of a candidate's steps and metadata. -/
def MemoryCandidate.keys (c : MemoryCandidate) : List String :=
  Json.keysItems c.steps ++ Json.keysFields c.metadata

/-- Screening is complete up to the severity of the signal and the keys of recalled objects: every
other string from a caller or from memory that reaches the prompt is clean. -/
theorem screening_complete_iff {rt signal signal' bundle memory}
    (accepted : sanitizeSignal rt signal = .ok signal')
    (recalled : guardUntrustedRecallBundle rt bundle = .ok memory) :
    (∀ s ∈ untrusted (reasoningInput signal' memory), Clean rt s) ↔
      Clean rt signal.severity ∧ ∀ c ∈ bundle.allCandidates, ∀ k ∈ c.keys, Clean rt k := by
  obtain ⟨summary, signature, severity⟩ := sanitizeSignal_spec accepted
  obtain ⟨back, forth⟩ := guardUntrustedRecallBundle_spec recalled
  constructor
  · intro clean
    constructor
    · rw [← severity]
      exact clean _ (mem_untrusted.mpr (.inl rfl))
    · intro c hc k hk
      obtain ⟨c', hc', screened⟩ := forth c hc
      obtain ⟨_, steps, metadata⟩ := guardUntrustedMemoryCandidate_spec screened
      apply clean
      apply mem_untrusted.mpr
      refine .inr (.inr (.inr ⟨c', hc', ?_⟩))
      rcases List.mem_append.mp hk with hk | hk
      · exact .inr (.inl (scanned_keysItems _ _ _ steps k hk))
      · exact .inr (.inr (scanned_keysFields _ _ _ metadata k hk))
  · rintro ⟨severe, keys⟩ s hs
    rcases mem_untrusted.mp hs with rfl | rfl | hs | ⟨c', hc', hs⟩
    · rw [severity]
      exact severe
    · exact summary
    · exact signature s hs
    · obtain ⟨c, hc, screened⟩ := back c' hc'
      obtain ⟨content, steps, metadata⟩ := guardUntrustedMemoryCandidate_spec screened
      rcases hs with rfl | hs | hs
      · exact content
      · rcases scanned_stringsItems _ _ _ steps s hs with hk | clean
        · exact keys c hc s (List.mem_append_left _ hk)
        · exact clean
      · rcases scanned_stringsFields _ _ _ metadata s hs with hk | clean
        · exact keys c hc s (List.mem_append_right _ hk)
        · exact clean

/-- A signal and a bundle whose severity and keys are clean. -/
theorem screening_complete_sample :
    "rolled back" ∈ untrusted (reasoningInput (Sample.alert "SEV-1") (Sample.bundleWith "action")) ∧
      ∀ s ∈ untrusted (reasoningInput (Sample.alert "SEV-1") (Sample.bundleWith "action")),
        Clean Runtime.sample s := by
  refine ⟨by decide +kernel, ?_⟩
  have accepted : sanitizeSignal Runtime.sample (Sample.alert "SEV-1") = .ok (Sample.alert "SEV-1") := by
    decide +kernel
  have recalled : guardUntrustedRecallBundle Runtime.sample (Sample.bundleWith "action") =
      .ok (Sample.bundleWith "action") := by decide +kernel
  exact (screening_complete_iff accepted recalled).mpr (by decide +kernel)

/-- A key of recalled metadata and a severity that reach the prompt as they are. -/
theorem key_unscreened :
    sanitizeSignal Runtime.sample (Sample.alert "system: ok") = .ok (Sample.alert "system: ok") ∧
      guardUntrustedRecallBundle Runtime.sample (Sample.bundleWith "tool_call") =
        .ok (Sample.bundleWith "tool_call") ∧
      ∀ s ∈ ["tool_call", "system: ok"],
        s ∈ untrusted (reasoningInput (Sample.alert "system: ok") (Sample.bundleWith "tool_call")) ∧
          ¬ Clean Runtime.sample s := by
  decide +kernel

end Postmortem
