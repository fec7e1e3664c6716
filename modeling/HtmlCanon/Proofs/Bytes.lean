import HtmlCanon.Proofs.Encoding
import HtmlCanon.Proofs.FaultOrder

/-!
# Pages that are given as bytes

A page that is given as bytes is freed of the characters that no text can hold before it is read,
and a page that is given as a text only when it is written. In between a reader may meet such
a character: it keeps a tag from being one, or stands in a value.

* `Config.canonicalizeBytes_toUTF8` : **the runs on the bytes of a string and on the string**.
-/

namespace HtmlCanon

namespace Config

/-- **The runs on the bytes of a string and on the string.** The first one is the run on the string
after repair. So the two give the same when the string needs no repair, and report the same fault
when something is left of it; when nothing is, the bytes give the empty text. -/
theorem canonicalizeBytes_toUTF8 (c : Config) (o : Options) (html : String) :
    c.canonicalizeBytes o html.toUTF8.data.toList = c.canonicalize o (repairText html.toList) ∧
      (html.toList.all isRepresentable = true →
        c.canonicalizeBytes o html.toUTF8.data.toList = c.canonicalize o html.toList) ∧
      (html.toList.any isRepresentable = true → ∀ e,
        c.canonicalizeBytes o html.toUTF8.data.toList = .error e ↔
          c.canonicalize o html.toList = .error e) ∧
      (html.toList.any isRepresentable = false →
        c.canonicalizeBytes o html.toUTF8.data.toList = .ok []) := by
  have hrun :
      c.canonicalizeBytes o html.toUTF8.data.toList = c.canonicalize o (repairText html.toList) := by
    rw [canonicalizeBytes, repairBytes_toUTF8]
  rw [hrun]
  refine ⟨rfl, fun hall => ?_, fun hany e => ?_, fun hnone => ?_⟩
  · rw [repairText_eq_self_iff.2 hall]
  · have hleft : repairText html.toList ≠ [] := by
      rw [ne_eq, repairText_eq_nil_iff, hany]
      decide
    have hhtml : html.toList ≠ [] := by
      rintro hnil
      rw [hnil] at hleft
      exact hleft rfl
    exact c.canonicalize_error_iff o hleft hhtml e
  · rw [repairText_eq_nil_iff.2 hnone]
    rfl

/-- A page with characters of all lengths comes out alike from its bytes and from its characters. -/
theorem canonicalizeBytes_toUTF8_lengths :
    "<p title=\"é\">€\t😀</p>".toList.all isRepresentable = true ∧
      empty.canonicalizeBytes ⟨none, none⟩ "<p title=\"é\">€\t😀</p>".toUTF8.data.toList =
        empty.canonicalize ⟨none, none⟩ "<p title=\"é\">€\t😀</p>".toList := by
  have hall : "<p title=\"é\">€\t😀</p>".toList.all isRepresentable = true := by decide +kernel
  exact ⟨hall, (canonicalizeBytes_toUTF8 empty ⟨none, none⟩ _).2.1 hall⟩

/-- A tag with a control character in front of its name. -/
def veiledTag : String := "<\x01p>x"

/-- The bytes of a veiled tag are read as a tag, and its characters are not. -/
theorem canonicalizeBytes_veiledTag :
    (empty.canonicalizeBytes ⟨none, none⟩ veiledTag.toUTF8.data.toList).toOption =
        some "<p>x</p>".toList ∧
      (empty.canonicalize ⟨none, none⟩ veiledTag.toList).toOption = some "&lt;p&gt;x".toList ∧
      empty.canonicalizeBytes ⟨none, none⟩ veiledTag.toUTF8.data.toList ≠
        empty.canonicalize ⟨none, none⟩ veiledTag.toList := by
  have hbytes : (empty.canonicalizeBytes ⟨none, none⟩ veiledTag.toUTF8.data.toList).toOption =
      some "<p>x</p>".toList := by
    rw [canonicalizeBytes, repairBytes_toUTF8]
    decide +kernel
  have htext : (empty.canonicalize ⟨none, none⟩ veiledTag.toList).toOption =
      some "&lt;p&gt;x".toList := by decide +kernel
  refine ⟨hbytes, htext, fun h => ?_⟩
  rw [h, htext] at hbytes
  exact absurd hbytes (by decide)

end Config

end HtmlCanon
