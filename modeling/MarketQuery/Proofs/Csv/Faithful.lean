import MarketQuery.Proofs.Csv.Content
import MarketQuery.Proofs.Csv.Saving

/-!
# Saved tables can be read again

* `Kept.content_eq`: a path leads to one content;
* `texts_eq_of_encode_eq`: tables with columns and the same content have the same texts;
* **`save_faithful`**: what a saved file holds is the table, read by the rules of the format.
-/

namespace MarketQuery.Csv

open FileSystem

theorem Kept.content_eq {before after : FileSystem} {path content found : String}
    (h : Kept before after path content) (hf : after.find path.toList = .ok (.file found)) :
    found = content := by
  cases h with
  | file h => exact Node.file.inj (Except.ok.inj (hf.symm.trans h))
  | void _ _ h => cases hf.symm.trans h
  | standard _ _ h => cases hf.symm.trans h

theorem texts_eq_of_encode_eq {t u : Table} (ht : t.columns ≠ []) (hu : u.columns ≠ [])
    (h : encode t = encode u) : texts t = texts u := by
  have hread := readRecords?_of_encode ht (encode_eq t)
  rw [readRecords?_of_encode hu (h ▸ encode_eq t)] at hread
  exact (Option.some.inj hread).symm

/-- **A saved table is found again in its file**: behind a byte order mark, a reader finds the names
of the columns and then the texts of each row. So the files of tables with other names or other
texts differ. -/
theorem save_faithful {t : Table} {path : String} {fs fs' : FileSystem} {rows : Nat}
    (ht : t.columns ≠ []) (h : save t path fs = (fs', .ok rows)) :
    rows = t.rowCount ∧
    (∃ body records, Kept fs fs' path ("\ufeff" ++ body) ∧
      readRecords? body.toList = some records ∧
      records.length = rows + 1 ∧ records = t.columns :: t.rows.map (·.map cellText)) ∧
    ∀ (u : Table) (path' : String) (gs gs' : FileSystem) (rows' : Nat) (content : String),
      u.columns ≠ [] → save u path' gs = (gs', .ok rows') →
      fs'.find path.toList = .ok (.file content) → gs'.find path'.toList = .ok (.file content) →
      t.columns = u.columns ∧ t.rows.map (·.map cellText) = u.rows.map (·.map cellText) := by
  obtain ⟨hrows, hkept⟩ := save_eq_ok h
  refine ⟨hrows, ⟨.ofList ((texts t).flatMap line), texts t, ?_, ?_, ?_, rfl⟩, ?_⟩
  · rwa [← encode_eq]
  · exact readRecords?_of_encode ht (encode_eq t)
  · rw [texts, List.length_cons, List.length_map, hrows, Table.rowCount]
  · intro u path' gs gs' rows' content hu h' hfound hfound'
    have hcontent := hkept.content_eq hfound
    have hcontent' := (save_eq_ok h').2.content_eq hfound'
    have := texts_eq_of_encode_eq ht hu (hcontent.symm.trans hcontent')
    exact List.cons.inj this

/-- A table whose names and texts need quotes, with cells of each kind. The proper number in it is
-1234.5625. -/
def quotedTable : Table where
  columns := ["a,b", "\ufeff"]
  rows := [[.text " \"x\"\r\n", .null], [.int (-7), .float .nan],
    [.bool true, .float (.finite true ⟨4653144478742216704, by decide⟩)]]
  nodup := by decide
  width := by decide

theorem save_faithful_quotedTable :
    let saved := save quotedTable "out/t.csv" FileSystem.empty
    saved.2 = .ok 3 ∧
    ∃ body, Kept FileSystem.empty saved.1 "out/t.csv" ("\ufeff" ++ body) ∧
      readRecords? body.toList = some
        [["a,b", "\ufeff"], [" \"x\"\r\n", ""], ["-7", ""], ["true", "-1234.5625"]] := by
  have hsaved : (save quotedTable "out/t.csv" FileSystem.empty).2 = .ok 3 := by decide +kernel
  obtain ⟨-, ⟨body, records, hkept, hread, -, rfl⟩, -⟩ :=
    save_faithful (by decide) (save_eq_of_snd hsaved)
  have htexts : quotedTable.columns :: quotedTable.rows.map (·.map cellText) =
      [["a,b", "\ufeff"], [" \"x\"\r\n", ""], ["-7", ""], ["true", "-1234.5625"]] := by
    decide +kernel
  exact ⟨hsaved, body, hkept, htexts ▸ hread⟩

end MarketQuery.Csv
