import ConnectionProfile.Proofs.Json.Ascii
import ConnectionProfile.Proofs.Text.Utf8
import ConnectionProfile.Proofs.Text.Wide
import ConnectionProfile.Yaml.Loaded

/-!
# Loading ASCII texts

A text of visible ASCII and line feeds is loaded from its octets as it is.
-/

namespace ConnectionProfile.Yaml

open Json (IsShown)

variable {t : Text}

theorem encode?_isShown (h : IsShown t) : ∃ bs, Utf8.encode? t = some bs := by
  have hu : t.isUnicode = true := by
    rw [Text.isUnicode, List.all_eq_true]
    intro c hc
    rw [Bool.not_eq_true', CodePoint.isSurrogate, CodePoint.between_eq_false_iff]
    obtain ⟨-, hv⟩ | rfl := h c hc
    · exact .inl (by omega)
    · exact .inl (by decide)
  exact ⟨_, if_pos hu⟩

theorem normalizeLines_isShown (h : IsShown t) : Loaded.normalizeLines t = t := by
  have hne {c : CodePoint} (hc : Json.IsVisible c ∨ c = '\n') : c ≠ '\r' := by
    rintro rfl
    obtain ⟨hv, -⟩ | hv := hc
    · exact absurd hv (by decide)
    · exact absurd hv (by decide)
  fun_induction Loaded.normalizeLines t with
  | case1 => rfl
  | case2 => exact absurd rfl (hne (h _ (List.mem_cons_self ..)))
  | case3 => rfl
  | case4 | case5 => exact absurd rfl (hne (h _ (List.mem_cons_self ..)))
  | case6 c d rest _ ih => rw [ih fun e he => h e (List.mem_cons_of_mem _ he)]

theorem isPrintable_isShown (h : IsShown t) : t.findIdx? (!isPrintable ·) = none := by
  rw [List.findIdx?_eq_none_iff]
  intro c hc
  obtain ⟨hv, hv'⟩ | rfl := h c hc
  · have hb : c.between 0x20 0x7E = true := CodePoint.between_iff.2 ⟨hv, by omega⟩
    simp [isPrintable, hb]
  · rfl

theorem ofOctets_isShown (h : IsShown t) {bs : Octets} (hb : Utf8.encode? t = some bs) :
    Loaded.ofOctets bs = .whole t := by
  rw [Loaded.ofOctets, Utf8.decode?_encode? hb]
  simp only [normalizeLines_isShown h, Loaded.checked, isPrintable_isShown h]

end ConnectionProfile.Yaml
