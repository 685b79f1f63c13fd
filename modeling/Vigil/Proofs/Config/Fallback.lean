import Vigil.Proofs.Config.KeyPath
import Vigil.Proofs.Config.Placeholder
import Mathlib.Data.List.TakeWhile

/-!
# Defaults of placeholders

A default stands in for a value that is not there and for nothing else.

* `Placeholder.shaped_iff`: a placeholder by its first two characters and its last one.
* `Placeholder.read?_of_key`: a placeholder without a default is its key.
* `exists_parts_of_shaped`: every placeholder is split at its first colon, or has none.
* `Config.orDefault`: what a default does to the outcome without it.
* `default_only_if_missing`: **a placeholder with a default, by the one without**, and what no
  placeholder is.
-/

namespace Vigil

open Config Placeholder

variable {c : Config} {text key : String}

namespace Placeholder

theorem shaped_iff :
    Shaped text ↔ ['$', '{'] <+: text.toList ∧ ['}'] <:+ text.toList := by
  constructor
  · rintro ⟨inner, htext⟩
    rw [htext]
    exact ⟨⟨inner ++ ['}'], rfl⟩, ⟨'$' :: '{' :: inner, rfl⟩⟩
  · rintro ⟨⟨rest, hfront⟩, ⟨front, hback⟩⟩
    -- the closing brace is neither of the first two characters
    match front with
    | [] => simp [← hfront] at hback
    | [_] => simp [← hfront] at hback
    | first :: second :: inner =>
      refine ⟨inner, ?_⟩
      rw [← hback] at hfront ⊢
      simp only [List.cons_append, List.nil_append, List.cons.injEq] at hfront
      rw [← hfront.1, ← hfront.2.1]
      rfl

/-- A placeholder without a colon is its key. -/
theorem read?_of_key (h : ':' ∉ key.toList) :
    read? ("$\x7b" ++ key ++ "\x7d") = some ⟨key, none⟩ := by
  have htext : ("$\x7b" ++ key ++ "\x7d").toList = '$' :: '{' :: (key.toList ++ ['}']) := by
    simp [String.toList_append]
  have hnone : key.toList.dropWhile (· != ':') = [] := by
    refine List.dropWhile_eq_nil_iff.2 fun d hd => ?_
    simp only [bne_iff_ne]
    rintro rfl
    exact h hd
  unfold read?
  rw [inner?_eq_some_iff.2 htext]
  simp [ofInner, hnone]

/-- **Every placeholder is split at its first colon**, if it has one. -/
theorem exists_parts_of_shaped (h : Shaped text) :
    ∃ key, ':' ∉ key.toList ∧ (text = "$\x7b" ++ key ++ "\x7d" ∨
      ∃ fallback, text = "$\x7b" ++ key ++ ":" ++ fallback ++ "\x7d") := by
  obtain ⟨inner, htext⟩ := h
  have hkey : ':' ∉ inner.takeWhile (· != ':') := fun hmem => by
    have := List.mem_takeWhile_imp hmem
    simp at this
  have hsplit := List.takeWhile_append_dropWhile (p := (· != ':')) (l := inner)
  have hhead := List.head?_dropWhile_not (· != ':') inner
  generalize inner.takeWhile (· != ':') = name at hkey hsplit
  refine ⟨String.ofList name, by simpa using hkey, ?_⟩
  cases hrest : inner.dropWhile (· != ':') with
  | nil =>
    rw [hrest, List.append_nil] at hsplit
    exact .inl (String.toList_inj.1 (by simp [htext, hsplit]))
  | cons d fallback =>
    obtain rfl : d = ':' := by simpa [hrest] using hhead
    refine .inr ⟨String.ofList fallback, String.toList_inj.1 ?_⟩
    rw [htext, ← hsplit, hrest]
    simp

end Placeholder

namespace Config

/-- What is used with a default: the default in place of nothing, and any other outcome as it
is. -/
def orDefault (fallback : String) : Except ConfigError String → Except ConfigError String
  | .error (.missing _) => .ok fallback
  | r => r

theorem resolve_key (h : ':' ∉ key.toList) : c.resolve ("$\x7b" ++ key ++ "\x7d") = c.getText key := by
  rw [resolve_of_read? (read?_of_key h), lookup]
  cases c.getText key with
  | ok s => rfl
  | error e => cases e <;> rfl

theorem resolve_default (h : ':' ∉ key.toList) (fallback : String) :
    c.resolve ("$\x7b" ++ key ++ ":" ++ fallback ++ "\x7d") =
      orDefault fallback (c.getText key) := by
  rw [resolve_of_read? (read?_of_colon h fallback), lookup]
  cases c.getText key with
  | ok s => rfl
  | error e => cases e <;> rfl

/-- What no text can be made of: nil, a table or an array. -/
inductive Textless : Value → Prop
  | nil (o : Option String) : Textless (.scalar o .nil)
  | array (o : Option String) (items : List Value) : Textless (.array o items)
  | table (o : Option String) (entries : List (String × Value)) : Textless (.table o entries)

theorem Textless.asText {v : Value} (h : Textless v) (key : String) :
    Value.asText key v = .error (.notText v key) := by
  cases h <;> rfl

theorem getText_of_get {v : Value} (h : c.get key = .ok v) : c.getText key = Value.asText key v := by
  rw [getText, h]

theorem getText_of_bad (h : KeyPath.read? key = none) : c.getText key = .error .badKey := by
  rw [getText, get, h]

/-- A value that is there is never reported as missing. -/
theorem orDefault_asText (fallback key : String) (v : Value) :
    orDefault fallback (Value.asText key v) = Value.asText key v := by
  cases v with
  | scalar o s => cases s <;> rfl
  | array | table => rfl

/-- **A default counts only where the key is missing.** It changes nothing where a value is there,
even one without a text, and nothing where the key is no path. Every text that starts and ends like
a placeholder is one with such a key, with a default or without; all other texts stand for
themselves. -/
theorem default_only_if_missing (c : Config) :
    (∀ key fallback, ':' ∉ key.toList →
      c.resolve ("$\x7b" ++ key ++ "\x7d") = c.getText key ∧
      c.resolve ("$\x7b" ++ key ++ ":" ++ fallback ++ "\x7d") =
        orDefault fallback (c.resolve ("$\x7b" ++ key ++ "\x7d"))) ∧
    (∀ key fallback v, ':' ∉ key.toList → c.get key = .ok v →
      c.resolve ("$\x7b" ++ key ++ ":" ++ fallback ++ "\x7d") = Value.asText key v ∧
      (Textless v → Value.asText key v = .error (.notText v key))) ∧
    (∀ key fallback, ':' ∉ key.toList → KeyPath.read? key = none →
      c.resolve ("$\x7b" ++ key ++ ":" ++ fallback ++ "\x7d") = .error .badKey) ∧
    (∀ text, ¬ (['$', '{'] <+: text.toList ∧ ['}'] <:+ text.toList) → c.resolve text = .ok text) ∧
    ∀ text, ['$', '{'] <+: text.toList → ['}'] <:+ text.toList →
      ∃ key, ':' ∉ key.toList ∧ (text = "$\x7b" ++ key ++ "\x7d" ∨
        ∃ fallback, text = "$\x7b" ++ key ++ ":" ++ fallback ++ "\x7d") := by
  refine ⟨fun key fallback h => ⟨resolve_key h, ?_⟩, fun key fallback v h hv => ⟨?_, ?_⟩,
    fun key fallback h hbad => ?_, fun text h => ?_, fun text hfront hback => ?_⟩
  · rw [resolve_default h, resolve_key h]
  · rw [resolve_default h, getText_of_get hv, orDefault_asText]
  · exact fun htextless => htextless.asText key
  · rw [resolve_default h, getText_of_bad hbad]
    rfl
  · exact resolve_of_not_shaped (mt shaped_iff.1 h)
  · exact exists_parts_of_shaped (shaped_iff.2 ⟨hfront, hback⟩)

/-- A default with a colon and a brace in it where nothing is set, one where nil is, one behind
what is no path, and a text that only ends like a placeholder. -/
theorem nil_and_missing_resolved :
    Config.empty.resolve "$\x7ba:$\x7bc:\x7d \x7d" = .ok "$\x7bc:\x7d " ∧
    (⟨.table none [("a", .scalar none .nil)]⟩ : Config).resolve "$\x7ba:1s\x7d" =
      .error (.notText (.scalar none .nil) "a") ∧
    Config.empty.resolve "$\x7b a:1s\x7d" = .error .badKey ∧
    Config.empty.resolve "a:1s\x7d" = .ok "a:1s\x7d" ∧
    ∃ key, ':' ∉ key.toList ∧ ("$\x7b:\x7d" = "$\x7b" ++ key ++ "\x7d" ∨
      ∃ fallback, "$\x7b:\x7d" = "$\x7b" ++ key ++ ":" ++ fallback ++ "\x7d") := by
  obtain ⟨hdefault, -, hbad, hother, hparts⟩ := default_only_if_missing Config.empty
  obtain ⟨-, hpresent, -⟩ := default_only_if_missing ⟨.table none [("a", .scalar none .nil)]⟩
  have hpath : KeyPath.read? "a" = some [.name "a"] :=
    KeyPath.read?_of_readName? (by decide) KeyPath.readSteps?_nil
  refine ⟨?_, ?_, hbad " a" "1s" (by decide) rfl, hother _ (by decide),
    hparts _ ⟨[':', '}'], rfl⟩ ⟨['$', '{', ':'], rfl⟩⟩
  · obtain ⟨hkey, hfallback⟩ := hdefault "a" "$\x7bc:\x7d " (by decide)
    have hmissing : Config.empty.getText "a" = .error (.missing "a") := by
      simp only [getText, get, hpath]
      rfl
    refine hfallback.trans ?_
    rw [hkey, hmissing]
    rfl
  · have hget : (⟨.table none [("a", .scalar none .nil)]⟩ : Config).get "a" =
        .ok (.scalar none .nil) := by
      simp only [get, hpath]
      rfl
    obtain ⟨hvalue, htext⟩ := hpresent "a" "1s" _ (by decide) hget
    exact hvalue.trans (htext (.nil none))

end Config

end Vigil
