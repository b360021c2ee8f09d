import ConnectionProfile.Proofs.Json.Written
import ConnectionProfile.Proofs.Text.Hex

/-!
# ASCII forms

What a layout for ASCII writes is visible ASCII, except for the blanks of the layout itself.
-/

namespace ConnectionProfile.Json

/-- Printable ASCII, with the space. -/
def IsVisible (c : CodePoint) : Prop := 0x20 ≤ c.val ∧ c.val < 0x7F

theorem isVisible_digitChar :
    ∀ n < 16, IsVisible (CodePoint.ofChar (Nat.digitChar n)) := by
  unfold IsVisible
  decide

theorem isVisible_escapeUnit (n : Nat) : ∀ d ∈ escapeUnit n, IsVisible d := by
  have hd (m : Nat) := isVisible_digitChar (m % 16) (Nat.mod_lt m (by decide))
  have hu : escapeUnit n = ('\\' : CodePoint) :: ('u' : CodePoint) :: Text.hex 4 n := rfl
  rw [hu, Text.hex_four]
  simp only [List.mem_cons, List.not_mem_nil, or_false]
  rintro d (rfl | rfl | rfl | rfl | rfl | rfl)
  · exact ⟨by decide, by decide⟩
  · exact ⟨by decide, by decide⟩
  all_goals exact hd _

theorem isVisible_escapeOne (c : CodePoint) : ∀ d ∈ escapeOne true c, IsVisible d := by
  have he := escaped_escapeOne true c
  generalize escapeOne true c = t at he ⊢
  intro d hd
  cases he with
  | @short e h =>
    have hs : shortEscapes.all (fun p => 0x20 ≤ p.2.val ∧ p.2.val < 0x7F) = true := rfl
    have he : 0x20 ≤ e.val ∧ e.val < 0x7F := of_decide_eq_true (List.all_eq_true.1 hs _ h)
    rcases List.mem_cons.1 hd with rfl | hd
    · exact ⟨by decide, by decide⟩
    · rw [List.mem_singleton.1 hd]
      exact he
  | control | unit => exact isVisible_escapeUnit _ d hd
  | pair => exact (List.mem_append.1 hd).elim (isVisible_escapeUnit _ d) (isVisible_escapeUnit _ d)
  | plain h ha =>
    rw [List.mem_singleton.1 hd]
    exact ⟨h, ha rfl⟩

theorem isVisible_quote (t : Text) : ∀ d ∈ quote true t, IsVisible d := by
  intro d hd
  have hq : IsVisible '"' := ⟨by decide, by decide⟩
  rw [← List.append_nil (quote true t), quote_append] at hd
  rcases List.mem_cons.1 hd with rfl | hd
  · exact hq
  rcases List.mem_append.1 hd with hd | hd
  · obtain ⟨c, -, hd⟩ := List.mem_flatMap.1 hd
    exact isVisible_escapeOne c d hd
  · rw [List.mem_singleton.1 hd]
    exact hq

theorem length_escapeOne {c : CodePoint} (h : c.isAscii = true) :
    (escapeOne true c).length ≤ 6 := by
  have hc : c.val < 0x80 := by simpa [CodePoint.isAscii] using h
  have he := escaped_escapeOne true c
  generalize escapeOne true c = t at he ⊢
  cases he with
  | short | plain => exact Nat.le_of_ble_eq_true rfl
  | control | unit => exact Nat.le_of_ble_eq_true rfl
  | pair => omega

theorem length_quote {t : Text} (h : t.isKeyword = true) : (quote true t).length ≤ 602 := by
  rw [Text.isKeyword, Bool.and_eq_true, decide_eq_true_eq] at h
  have hl (t : Text) (ht : t.isAscii = true) :
      (t.flatMap (escapeOne true)).length ≤ 6 * t.length := by
    induction t with
    | nil => exact Nat.le_refl 0
    | cons c t ih =>
      simp only [Text.isAscii, List.all_cons, Bool.and_eq_true] at ht ih
      have := length_escapeOne ht.1
      have := ih ht.2
      rw [List.flatMap_cons, List.length_append, List.length_cons]
      omega
  have := hl t h.1
  rw [← List.append_nil (quote true t), quote_append, List.length_cons, List.length_append,
    List.length_singleton]
  omega

-- ---------------------------------------------------------------------------
-- Written values
-- ---------------------------------------------------------------------------

/-- Visible ASCII on any number of lines. -/
def IsShown (t : Text) : Prop := ∀ c ∈ t, IsVisible c ∨ c = '\n'

theorem isShown_nil : IsShown [] := fun _ hc => nomatch hc

theorem IsShown.append {t u : Text} (ht : IsShown t) (hu : IsShown u) : IsShown (t ++ u) := by
  intro c hc
  exact (List.mem_append.1 hc).elim (ht c) (hu c)

theorem isShown_of_all {t : Text} (h : t.all (fun c => c.between 0x20 0x7E || c = '\n') = true) :
    IsShown t := by
  intro c hc
  have hb := List.all_eq_true.1 h c hc
  simp only [Bool.or_eq_true, decide_eq_true_eq, CodePoint.between, Bool.and_eq_true] at hb
  exact hb.imp (fun hv => ⟨hv.1, by omega⟩) id

theorem isShown_quote (t : Text) : IsShown (quote true t) :=
  fun d hd => .inl (isVisible_quote t d hd)

/-- The layout is for ASCII, and its own parts are shown. -/
structure Layout.IsShown (layout : Layout) : Prop where
  ascii : layout.ascii = true
  indent : ∀ step, layout.indent = some step → Json.IsShown step
  item : Json.IsShown layout.itemSeparator
  key : Json.IsShown layout.keySeparator

section
variable {layout : Layout}

theorem Layout.IsShown.newline (h : layout.IsShown) (depth : Nat) :
    Json.IsShown (layout.newline depth) := by
  intro c hc
  obtain rfl | ⟨step, hi, hc⟩ := Layout.mem_newline hc
  · exact .inr rfl
  · exact h.indent step hi c hc

theorem isShown_joinWith {sep : Text} (hs : IsShown sep) :
    (ts : List Text) → (∀ t ∈ ts, IsShown t) → IsShown (Text.joinWith sep ts)
  | [], _ => isShown_nil
  | t :: ts, h => by
    rw [joinWith_cons]
    refine (h t (List.mem_cons_self ..)).append fun c hc => ?_
    obtain ⟨u, hu, hc⟩ := List.mem_flatMap.1 hc
    exact (hs.append (h u (List.mem_cons_of_mem _ hu))) c hc

theorem isShown_enclose (h : layout.IsShown) (depth : Nat) {start finish : Text} {ts : List Text}
    (hs : IsShown start) (hf : IsShown finish) (ht : ∀ t ∈ ts, IsShown t) :
    IsShown (layout.enclose depth start finish ts) :=
  (((hs.append (h.newline _)).append
    (isShown_joinWith (h.item.append (h.newline _)) ts ht)).append (h.newline _)).append hf

mutual
theorem isShown_write (h : layout.IsShown) : (v : Value) → (depth : Nat) →
    IsShown (write layout depth v)
  | .text t, _ => by
    rw [write, h.ascii]
    exact isShown_quote t
  | .list [], _ => isShown_of_all (t := "[]") rfl
  | .list (x :: xs), depth =>
    isShown_enclose h depth (isShown_of_all rfl) (isShown_of_all rfl)
      (isShown_writeItems h (x :: xs) (depth + 1))
  | .map [], _ => isShown_of_all (t := "\x7b\x7d") rfl
  | .map (e :: es), depth =>
    isShown_enclose h depth (isShown_of_all rfl) (isShown_of_all rfl)
      (isShown_writeMembers h (e :: es) (depth + 1))
  | .null, _ | .bool _, _ | .int _, _ | .float _, _ | .octets _, _ | .set _, _ | .pair _ _, _
  | .date _, _ | .dateTime _, _ => isShown_of_all (t := "null") rfl

theorem isShown_writeItems (h : layout.IsShown) : (xs : List Value) → (depth : Nat) →
    ∀ t ∈ writeItems layout depth xs, IsShown t
  | [], _, _, ht => nomatch ht
  | x :: xs, depth, t, ht => by
    rcases List.mem_cons.1 ht with rfl | ht
    · exact isShown_write h x depth
    · exact isShown_writeItems h xs depth t ht

theorem isShown_writeMembers (h : layout.IsShown) : (es : List Entry) → (depth : Nat) →
    ∀ t ∈ writeMembers layout depth es, IsShown t
  | [], _, _, ht => nomatch ht
  | (k, v) :: es, depth, t, ht => by
    rcases List.mem_cons.1 ht with rfl | ht
    · rw [h.ascii]
      exact ((isShown_quote _).append h.key).append (isShown_write h v depth)
    · exact isShown_writeMembers h es depth t ht
end

end

end ConnectionProfile.Json
