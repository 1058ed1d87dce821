import FlashPatch.Proofs.Json.Writer
import FlashPatch.Proofs.Record.Basic
import FlashPatch.Proofs.Record.Field
import FlashPatch.Report.Json

/-!
# Reports in JSON documents

The document of a report has a member for each field, and the report is read back from it.
-/

namespace FlashPatch.Report

open Json (Value NumberLiteral IsDocument)

/-- The members of the document of a report. -/
private def members (report : Report) : List (String × Value) :=
  [(Field.format.name, .string report.format.name),
    (Field.payloadSize.name, .number (.ofInt report.payloadSize.toNat)),
    (Field.headerSize.name, .number (.ofInt report.headerSize.toNat)),
    (Field.maxPartitionSize.name, .number (.ofInt report.maxPartitionSize.toNat)),
    (Field.fits.name, .bool report.fits)]

private theorem isDocument_toJson (report : Report) :
    IsDocument report.toJson (.object report.members) := by
  have hname : Json.IsPlain report.format.name := by cases report.format <;> decide
  have hkey : ∀ field : Field, Json.IsPlain field.name := by rintro ⟨⟩ <;> decide
  refine Json.isDocument_writeObject ?_
  simp only [List.forall_mem_cons, List.not_mem_nil, false_implies, implies_true, and_true]
  exact ⟨⟨hkey .format, hname⟩, ⟨hkey .payloadSize, trivial⟩, ⟨hkey .headerSize, trivial⟩,
    ⟨hkey .maxPartitionSize, trivial⟩, hkey .fits, trivial⟩

private theorem readNatural_ofInt (n : UInt64) (wanted : String) :
    Record.readNatural wanted (Value.number (.ofInt n.toNat)).tree = .ok n :=
  (Record.readNatural_tree_eq_ok_iff (NumberLiteral.spells_writeInt n.toNat)).mpr
    (NumberLiteral.isInteger_ofInt n.toNat)

private theorem find?_name (field : Field) :
    record.fields.find? (fun other ↦ record.fieldName other = field.name) = some field := by
  cases field <;> decide

private theorem foldlM_putMember_members (report : Report) :
    (Value.treesOfMembers report.members).foldlM record.putMember record.blank =
      .ok ⟨report.format, report.payloadSize, report.headerSize, report.maxPartitionSize,
        report.fits⟩ := by
  have hformat (draft : Draft) : record.put draft .format (Value.string report.format.name).tree =
      .ok { draft with format := report.format } :=
    Record.bind_eq_ok_iff.mpr
      ⟨report.format, Record.readFormat_tree_eq_ok_iff.mpr (Record.meansFormat_name _), rfl⟩
  have hpayloadSize (draft : Draft) : record.put draft .payloadSize
      (Value.number (.ofInt report.payloadSize.toNat)).tree =
        .ok { draft with payloadSize := report.payloadSize } :=
    Record.bind_eq_ok_iff.mpr ⟨report.payloadSize, readNatural_ofInt report.payloadSize "u64", rfl⟩
  have hheaderSize (draft : Draft) : record.put draft .headerSize
      (Value.number (.ofInt report.headerSize.toNat)).tree =
        .ok { draft with headerSize := report.headerSize } :=
    Record.bind_eq_ok_iff.mpr ⟨report.headerSize, readNatural_ofInt report.headerSize "usize", rfl⟩
  have hmaxPartitionSize (draft : Draft) : record.put draft .maxPartitionSize
      (Value.number (.ofInt report.maxPartitionSize.toNat)).tree =
        .ok { draft with maxPartitionSize := report.maxPartitionSize } :=
    Record.bind_eq_ok_iff.mpr
      ⟨report.maxPartitionSize, readNatural_ofInt report.maxPartitionSize "u64", rfl⟩
  have hfits (draft : Draft) : record.put draft .fits (Value.bool report.fits).tree =
      .ok { draft with fits := report.fits } := rfl
  simp only [members, Value.treesOfMembers]
  rw [record.foldlM_putMember_cons _ (find?_name .format) rfl (hformat _),
    record.foldlM_putMember_cons _ (find?_name .payloadSize) rfl (hpayloadSize _),
    record.foldlM_putMember_cons _ (find?_name .headerSize) rfl (hheaderSize _),
    record.foldlM_putMember_cons _ (find?_name .maxPartitionSize) rfl (hmaxPartitionSize _),
    record.foldlM_putMember_cons _ (find?_name .fits) rfl (hfits _)]
  rfl

private theorem ofJson_of_isDocument {text : String} {report : Report}
    (h : IsDocument text (.object report.members)) : ofJson text = .ok report := by
  rw [ofJson, record.ofText_of_isDocument h, Value.tree, Record.ofTree, Record.ofMembers,
    foldlM_putMember_members]
  rfl

/-- Reports are read back from their documents, whatever the sizes, so different reports have
different documents. -/
theorem ofJson_toJson_and_injective :
    (∀ report : Report, ofJson report.toJson = .ok report) ∧ Function.Injective toJson := by
  have hread (report : Report) : ofJson report.toJson = .ok report :=
    ofJson_of_isDocument report.isDocument_toJson
  refine ⟨hread, fun report other h ↦ ?_⟩
  have hsame : Except.ok report = (Except.ok other : Except RecordError Report) := by
    rw [← hread report, h, hread other]
  exact Except.ok.inj hsame

end FlashPatch.Report
