import Vigil.Proofs.Source.Reading

/-!
# Items between angle brackets

What is written between angle brackets is the items that were read, each with the comma behind it,
but with the lifetimes in front. So it is a row of the same items in another order, and written
again it stays as it is.

* `Row`: items between angle brackets, one after the other.
* `arrange`: the items in the order they are written in.
* `arranged_arrange`: **what is written is in order already**.
-/

namespace Vigil.Source

/-- An item between angle brackets, as it is written, and the comma behind it if there is one. -/
structure Piece where
  item : List Token
  comma : List Token

namespace Piece

def tokens (p : Piece) : List Token := p.item ++ p.comma

/-- All tokens of some items. -/
def concat (ps : List Piece) : List Token := ps.flatMap tokens

theorem concat_append (ps qs : List Piece) : concat (ps ++ qs) = concat ps ++ concat qs :=
  List.flatMap_append

/-- Only the last item may be without a comma. -/
inductive Separated : List Piece → Prop
  | nil : Separated []
  | last (item : List Token) : Separated [⟨item, []⟩]
  | cons (item : List Token) (i : Bool) {ps : List Piece} :
      Separated ps → Separated (⟨item, [.mark ',' i]⟩ :: ps)

/-- The item with a comma behind it. -/
def closed (p : Piece) : Piece := if p.comma.isEmpty then ⟨p.item, [Token.sign ',']⟩ else p

/-- Whether there is no comma behind the last item. -/
def bare (ps : List Piece) : Bool := ps.getLast?.any (·.comma.isEmpty)

def lifetimes (ps : List Piece) : List Piece := ps.filter (isLifetime ·.item)

def others (ps : List Piece) : List Piece := ps.filter (!isLifetime ·.item)

/-- The items in the order they are written in, the lifetimes with a comma behind each of them if
others follow. -/
def arrange (ps : List Piece) : List Piece :=
  if (concat (others ps)).isEmpty then lifetimes ps else (lifetimes ps).map closed ++ others ps

variable {ps : List Piece}

theorem concat_cons (p : Piece) (ps : List Piece) : concat (p :: ps) = p.tokens ++ concat ps :=
  List.flatMap_cons

theorem bare_cons (p : Piece) (ps : List Piece) :
    bare (p :: ps) = if ps.isEmpty then p.comma.isEmpty else bare ps := by
  cases ps <;> simp [bare, List.getLast?_cons]

theorem isLifetime_closed (p : Piece) : isLifetime p.closed.item = isLifetime p.item := by
  rw [closed]
  split <;> rfl

theorem Separated.filter {f : Piece → Bool} (h : Separated ps) : Separated (ps.filter f) := by
  induction h with
  | nil => exact .nil
  | last item => cases hf : f ⟨item, []⟩ <;> simp [hf, Separated.nil, Separated.last]
  | cons item i _ ih => cases hf : f ⟨item, [.mark ',' i]⟩ <;> simp [hf, ih, Separated.cons]

theorem Separated.append_closed {qs : List Piece} (h : Separated ps) (hqs : Separated qs) :
    Separated (ps.map closed ++ qs) := by
  induction h with
  | nil => exact hqs
  | last item => exact hqs.cons item false
  | cons item i _ ih => exact ih.cons item i

theorem concat_closed (h : Separated ps) :
    concat (ps.map closed) = concat ps ++ if bare ps then [Token.sign ','] else [] := by
  induction h with
  | nil => rfl
  | last item => simp [concat, tokens, closed, bare]
  | @cons item i ps _ ih =>
    have hbare : bare (⟨item, [.mark ',' i]⟩ :: ps) = bare ps := by
      cases ps <;> simp [bare, List.getLast?_cons]
    simp only [concat, List.map_cons, List.flatMap_cons, hbare] at ih ⊢
    simp [ih, closed]

theorem isLifetime_of_closed {p : Piece} (h : p ∈ (lifetimes ps).map closed) :
    isLifetime p.item = true := by
  obtain ⟨q, hq, rfl⟩ := List.mem_map.1 h
  rw [isLifetime_closed]
  exact (List.mem_filter.1 hq).2

theorem lifetimes_append_others (ps : List Piece) :
    lifetimes ((lifetimes ps).map closed ++ others ps) = (lifetimes ps).map closed := by
  rw [lifetimes, List.filter_append, List.filter_eq_self.2 fun _ => isLifetime_of_closed,
    List.filter_eq_nil_iff.2 fun p hp => by simpa using (List.mem_filter.1 hp).2, List.append_nil]

theorem others_append_others (ps : List Piece) :
    others ((lifetimes ps).map closed ++ others ps) = others ps := by
  rw [others, List.filter_append, List.filter_eq_nil_iff.2 fun p hp => by
      simpa using isLifetime_of_closed hp,
    List.nil_append, others, List.filter_filter]
  simp

/-! ## What is written -/

/-- What is to be written for some more items. -/
def addTo (a : Angles) (ps : List Piece) : Angles := ps.foldl (fun a p => a.add p.item p.comma) a

theorem addTo_eq (a : Angles) (ps : List Piece) : addTo a ps =
    ⟨a.lifetimes ++ concat (lifetimes ps), a.others ++ concat (others ps),
      if (lifetimes ps).isEmpty then a.bare else bare (lifetimes ps)⟩ := by
  induction ps generalizing a with
  | nil => simp [addTo, concat, lifetimes, others]
  | cons p ps ih =>
    have hstep : addTo a (p :: ps) = addTo (a.add p.item p.comma) ps := rfl
    rw [hstep, ih, Angles.add]
    cases hp : isLifetime p.item with
    | true =>
      have hls : lifetimes (p :: ps) = p :: lifetimes ps := List.filter_cons_of_pos hp
      have hos : others (p :: ps) = others ps := List.filter_cons_of_neg (by simp [hp])
      simp [hls, hos, bare_cons, concat_cons, tokens]
    | false =>
      have hls : lifetimes (p :: ps) = lifetimes ps := List.filter_cons_of_neg (by simp [hp])
      have hos : others (p :: ps) = p :: others ps := List.filter_cons_of_pos (by simp [hp])
      simp [hls, hos, concat_cons, tokens]

theorem arranged_eq (ps : List Piece) : (addTo {} ps).arranged = concat (lifetimes ps) ++
    (if bare (lifetimes ps) && !(concat (others ps)).isEmpty then [Token.sign ','] else []) ++
      concat (others ps) := by
  have hbare : (if (lifetimes ps).isEmpty then false else bare (lifetimes ps)) =
      bare (lifetimes ps) := by
    cases lifetimes ps <;> rfl
  rw [addTo_eq, Angles.arranged]
  simp only [List.nil_append, hbare]
  split <;> simp

/-- What is written is the items as arranged. -/
theorem arranged_eq_concat (h : Separated ps) : (addTo {} ps).arranged = concat (arrange ps) := by
  rw [arranged_eq, arrange]
  cases hos : (concat (others ps)).isEmpty with
  | true => simp [List.isEmpty_iff.1 hos]
  | false =>
    have hls : Separated (lifetimes ps) := h.filter
    rw [if_neg Bool.false_ne_true, concat_append, concat_closed hls]
    simp

/-- **What is written is in order already.** -/
theorem arranged_arrange (h : Separated ps) :
    (addTo {} (arrange ps)).arranged = (addTo {} ps).arranged := by
  rw [arranged_eq (arrange ps), arranged_eq_concat h, arrange]
  cases hos : (concat (others ps)).isEmpty with
  | true =>
    have hls : lifetimes (lifetimes ps) = lifetimes ps := by simp [lifetimes]
    have hnone : others (lifetimes ps) = [] := by simp [lifetimes, others]
    simp [hls, hnone, concat]
  | false =>
    rw [if_neg Bool.false_ne_true, lifetimes_append_others, others_append_others, concat_append]
    have hbare : bare ((lifetimes ps).map closed) = false := by
      rw [bare, List.getLast?_map]
      cases (lifetimes ps).getLast? with
      | none => rfl
      | some p =>
        simp only [Option.map_some, Option.any_some, closed]
        split <;> simp_all
    simp [hbare]

theorem separated_arrange (h : Separated ps) : Separated (arrange ps) := by
  rw [arrange]
  split
  · exact h.filter
  · exact h.filter.append_closed h.filter

/-- An arrangement is made of the items that were there. -/
theorem item_of_arrange {p : Piece} (hp : p ∈ arrange ps) : ∃ q ∈ ps, p.item = q.item := by
  rw [arrange] at hp
  split at hp
  · exact ⟨p, (List.mem_filter.1 hp).1, rfl⟩
  · obtain hp | hp := List.mem_append.1 hp
    · obtain ⟨q, hq, rfl⟩ := List.mem_map.1 hp
      refine ⟨q, (List.mem_filter.1 hq).1, ?_⟩
      rw [closed]
      split <;> rfl
    · exact ⟨p, (List.mem_filter.1 hp).1, rfl⟩

/-- The first of some items stands in front of a comma or of the closing bracket. -/
theorem front_of_separated {p : Piece} (h : Separated (p :: ps)) (i : Bool) (rest : List Token) :
    ∃ c j more, (c = ',' ∨ c = '>') ∧
      concat (p :: ps) ++ .mark '>' i :: rest = p.item ++ .mark c j :: more := by
  cases h with
  | last item => exact ⟨'>', i, rest, .inr rfl, by simp [concat, tokens]⟩
  | cons item j _ =>
    exact ⟨',', j, concat ps ++ .mark '>' i :: rest, .inl rfl, by simp [concat, tokens]⟩

/-- What is written first is the first item or a lifetime. -/
theorem front_of_arrange {p : Piece} (h : Separated (p :: ps)) (i : Bool) (rest : List Token) :
    ∃ item c j more, (c = ',' ∨ c = '>') ∧ (item = p.item ∨ isLifetime item = true) ∧
      concat (arrange (p :: ps)) ++ .mark '>' i :: rest = item ++ .mark c j :: more := by
  have first {q : Piece} {qs : List Piece} (harrange : arrange (p :: ps) = q :: qs)
      (hq : q.item = p.item ∨ isLifetime q.item = true) : ∃ item c j more, (c = ',' ∨ c = '>') ∧
        (item = p.item ∨ isLifetime item = true) ∧
          concat (arrange (p :: ps)) ++ .mark '>' i :: rest = item ++ .mark c j :: more := by
    have hseparated := separated_arrange h
    rw [harrange] at hseparated ⊢
    obtain ⟨c, j, more, hc, heq⟩ := front_of_separated hseparated i rest
    exact ⟨_, c, j, more, hc, hq, heq⟩
  cases hls : lifetimes (p :: ps) with
  | nil =>
    have hos : others (p :: ps) = p :: ps := by
      refine List.filter_eq_self.2 fun q hq => ?_
      simpa using List.filter_eq_nil_iff.1 hls q hq
    cases hempty : (concat (p :: ps)).isEmpty with
    | true =>
      have hitem : p.item = [] := by
        rw [concat_cons, List.isEmpty_iff, tokens] at hempty
        simp_all
      have harrange : arrange (p :: ps) = [] := by simp [arrange, hos, hls, hempty]
      exact ⟨[], '>', i, rest, .inr rfl, .inl hitem.symm, by rw [harrange]; rfl⟩
    | false => exact first (by simp [arrange, hos, hls, hempty]; rfl) (.inl rfl)
  | cons q qs =>
    have hq : isLifetime q.item = true :=
      (List.mem_filter.1 (hls ▸ List.mem_cons_self : q ∈ lifetimes (p :: ps))).2
    cases hempty : (concat (others (p :: ps))).isEmpty with
    | true => exact first (by simp [arrange, hls, hempty]; rfl) (.inr hq)
    | false =>
      exact first (by simp [arrange, hls, hempty]; rfl) (.inr (isLifetime_closed q ▸ hq))

end Piece

/-! ## Rows of items -/

/-- Items one after the other up to the closing bracket, each read in some way. -/
inductive Row (reads : (ts item rest : List Token) → Prop) (i : Bool) (rest : List Token) :
    List Token → List Piece → Prop
  | close : Row reads i rest (.mark '>' i :: rest) []
  | last {ts item : List Token} : (Look.mark '>').holds ts = false →
      reads ts item (.mark '>' i :: rest) → Row reads i rest ts [⟨item, []⟩]
  | next {ts item mid : List Token} {j : Bool} {ps : List Piece} :
      (Look.mark '>').holds ts = false → reads ts item (.mark ',' j :: mid) →
        Row reads i rest mid ps → Row reads i rest ts (⟨item, [.mark ',' j]⟩ :: ps)

namespace Row

open Grammar Piece

variable {reads : (ts item rest : List Token) → Prop} {i : Bool} {ts rest : List Token}
  {ps : List Piece}

theorem separated (h : Row reads i rest ts ps) : Separated ps := by
  induction h with
  | close => exact .nil
  | last => exact .last _
  | next _ _ _ ih => exact .cons _ _ ih

theorem imp {reads' : (ts item rest : List Token) → Prop} (h : Row reads i rest ts ps)
    (himp : ∀ ts item rest, reads ts item rest → reads' ts item rest) :
    Row reads' i rest ts ps := by
  induction h with
  | close => exact .close
  | last hopen h => exact .last hopen (himp _ _ _ h)
  | next hopen h _ ih => exact .next hopen (himp _ _ _ h) ih

theorem suffix (h : Row reads i rest ts ps)
    (hreads : ∀ ts item rest, reads ts item rest → rest <:+ ts) : rest <:+ ts := by
  induction h with
  | close => exact List.suffix_cons _ _
  | last _ h => exact (List.suffix_cons _ _).trans (hreads _ _ _ h)
  | next _ h _ ih => exact (ih.trans (List.suffix_cons _ _)).trans (hreads _ _ _ h)

/-- Each item was read somewhere, in front of a comma or of the closing bracket. -/
theorem read_of_mem (h : Row reads i rest ts ps) {p : Piece} (hp : p ∈ ps) :
    ∃ us c j mid, (c = ',' ∨ c = '>') ∧ (Look.mark '>').holds us = false ∧
      reads us p.item (.mark c j :: mid) := by
  induction h with
  | close => exact nomatch hp
  | last hopen h =>
    obtain rfl := List.mem_singleton.1 hp
    exact ⟨_, '>', i, rest, .inr rfl, hopen, h⟩
  | @next ts item mid j ps hopen h _ ih =>
    obtain rfl | hp := List.mem_cons.1 hp
    · exact ⟨ts, ',', j, mid, .inl rfl, hopen, h⟩
    · exact ih hp

/-- A row in front of something else, if each of its items is read in front of anything. -/
theorem again {reads' : (ts item rest : List Token) → Prop} {text rest' : List Token}
    (h : Row reads i rest ts ps) (hsuffix : ∀ ts item rest, reads ts item rest → rest <:+ ts)
    (hreads : ∀ front item c j mid mid', (c = ',' ∨ c = '>') →
      (Look.mark '>').holds (front ++ .mark c j :: mid) = false →
        reads (front ++ .mark c j :: mid) item (.mark c j :: mid) →
          (Look.mark '>').holds (front ++ .mark c j :: mid') = false ∧
            reads' (front ++ .mark c j :: mid') item (.mark c j :: mid'))
    (htext : ts = text ++ rest) : Row reads' i rest' (text ++ rest') ps := by
  induction h generalizing text with
  | close =>
    obtain rfl : [.mark '>' i] = text := List.append_cancel_right htext
    exact .close
  | last hopen h =>
    obtain ⟨front, rfl⟩ := hsuffix _ _ _ h
    obtain rfl : front ++ [.mark '>' i] = text := List.append_cancel_right (by simpa using htext)
    obtain ⟨hopen, h⟩ := hreads front _ _ _ _ rest' (.inr rfl) hopen h
    rw [List.append_assoc]
    exact .last hopen h
  | next hopen h hrow ih =>
    obtain ⟨front, rfl⟩ := hsuffix _ _ _ h
    obtain ⟨back, rfl⟩ := hrow.suffix hsuffix
    obtain rfl : front ++ .mark ',' _ :: back = text :=
      List.append_cancel_right (by simpa using htext)
    obtain ⟨hopen, h⟩ := hreads front _ _ _ _ (back ++ rest') (.inl rfl) hopen h
    rw [List.append_assoc]
    exact .next hopen h (ih rfl)

/-- Items that are read in front of a comma and of the closing bracket make a row. -/
theorem of_separated (hps : Separated ps)
    (hreads : ∀ p ∈ ps, ∀ c j more, c = ',' ∨ c = '>' →
      (Look.mark '>').holds (p.item ++ .mark c j :: more) = false ∧
        reads (p.item ++ .mark c j :: more) p.item (.mark c j :: more)) :
    Row reads i rest (concat ps ++ .mark '>' i :: rest) ps := by
  induction hps with
  | nil => exact .close
  | last item =>
    obtain ⟨hopen, hread⟩ := hreads _ (List.mem_singleton.2 rfl) '>' i rest (.inr rfl)
    simpa [concat, tokens] using Row.last hopen hread
  | @cons item j ps _ ih =>
    obtain ⟨hopen, hread⟩ := hreads _ List.mem_cons_self ',' j
      (concat ps ++ .mark '>' i :: rest) (.inl rfl)
    simpa [concat, tokens] using
      Row.next hopen hread (ih fun p hp => hreads p (List.mem_cons_of_mem _ hp))

variable {ρ : Type} {rules : ρ → Grammar ρ} {n : Nat} {g : Grammar ρ} {before : Angles}
  {written : List Token}

/-- **What is read between angle brackets is a row of items.** -/
theorem of_read (hread : run rules (n + 1) (.angles g before) ts = .read written rest) :
    ∃ i ps, Row (fun ts item rest => run rules n g ts = .read item rest) i rest ts ps ∧
      written = (addTo before ps).arranged ++ [.mark '>' i] := by
  induction n generalizing before ts with
  | zero =>
    obtain ⟨i, rfl, rfl⟩ | ⟨-, ⟨_, _, hg, -⟩ | ⟨_, _, _, hg, -⟩⟩ := read_angles.1 hread
    · exact ⟨i, [], .close, rfl⟩
    · exact nomatch hg
    · exact nomatch hg
  | succ n ih =>
    obtain ⟨i, rfl, rfl⟩ | ⟨hopen, ⟨item, i, hg, rfl⟩ | ⟨item, j, mid, hg, hmore⟩⟩ :=
      read_angles.1 hread
    · exact ⟨i, [], .close, rfl⟩
    · exact ⟨i, [⟨item, []⟩], .last hopen hg, rfl⟩
    · obtain ⟨i, ps, hrow, rfl⟩ := ih hmore
      exact ⟨i, ⟨item, [.mark ',' j]⟩ :: ps, .next hopen hg
        (hrow.imp fun _ _ _ h => read_mono h n.le_succ), rfl⟩

/-- A row of items is read, at some depth. -/
theorem read (h : Row (fun ts item rest => ∃ n, run rules n g ts = .read item rest) i rest ts ps)
    (before : Angles) : ∃ n, run rules n (.angles g before) ts =
      .read ((addTo before ps).arranged ++ [.mark '>' i]) rest := by
  induction h generalizing before with
  | close => exact ⟨1, read_angles.2 (.inl ⟨i, rfl, rfl⟩)⟩
  | @last ts item hopen h =>
    obtain ⟨n, h⟩ := h
    exact ⟨n + 1, read_angles.2 (.inr ⟨hopen, .inl ⟨item, i, h, rfl⟩⟩)⟩
  | @next ts item mid j ps hopen h _ ih =>
    obtain ⟨n, h⟩ := h
    obtain ⟨m, hm⟩ := ih (before.add item [.mark ',' j])
    exact ⟨max n m + 1, read_angles.2 (.inr ⟨hopen, .inr ⟨item, j, mid,
      read_mono h (Nat.le_max_left ..), read_mono hm (Nat.le_max_right ..)⟩⟩)⟩

end Row

end Vigil.Source
