import Mathlib.Data.List.Nodup
import SelectTree.Proofs.Compression

namespace SelectTree.Edit

/-! Projections written with stars. They keep their columns, write each of them once, and are
written the same way again. -/

variable {schema : Schema} {items : List ColumnRef} {q : Select}
  {columns tables : List String}

/-- The columns of a query, written with stars for the tables that they cover. -/
def compressed (schema : Schema) (q : Select) : List String :=
  compress schema (resolve schema q) q.tables

/-- The query with its columns written so. -/
def withStars (schema : Schema) (q : Select) : Select :=
  { q with items := rebuildItems q.items (compressed schema q) }

@[simp] theorem tables_withStars : (withStars schema q).tables = q.tables := rfl

theorem mem_resolve_withStars (plain : schema.HasPlainColumns) {x : String} :
    x ∈ resolve schema (withStars schema q) ↔ x ∈ resolve schema q := by
  rw [mem_resolve]
  exact mem_rebuilt_write plain .default
    (fun x hx => projectable_of_mem_resolve plain hx) fun _ => Iff.rfl

theorem isStar_eq_false_of_mem_resolve (plain : schema.HasPlainColumns) {x : String}
    (h : x ∈ resolve schema q) : isStar x = false :=
  (projectable_of_mem_resolve plain h).isStar_eq_false

/-! Written once -/

theorem nodup_foldl_compressTable (plain : schema.HasPlainColumns) (hcolumns : columns.Nodup)
    (htables : tables.Nodup) (hnames : ∀ x ∈ columns, isStar x = false) :
    (tables.foldl (compressTable schema columns) columns).Nodup := by
  rw [foldl_compressTable_columns plain, List.nodup_append]
  refine ⟨?_, hcolumns.filter _, ?_⟩
  · rw [List.nodup_reverse]
    exact (htables.filter _).map fun _ _ => star_injective
  · rintro x hx y hy rfl
    obtain ⟨table, -, rfl⟩ := List.mem_map.mp (List.mem_reverse.mp hx)
    have hstar := hnames _ (mem_starless_iff.mp hy).1
    rw [isStar_star] at hstar
    cases hstar

theorem nodup_compressed (plain : schema.HasPlainColumns) : (compressed schema q).Nodup := by
  rcases compress_eq_or schema (resolve schema q) q.tables with heq | ⟨heq, -, -⟩
  · rw [compressed, heq]
    exact nodup_foldl_compressTable plain (resolve_nodup schema q) (nodup_eraseDups _)
      fun _ => isStar_eq_false_of_mem_resolve plain
  · rw [compressed, heq]
    exact List.nodup_singleton "*"

/-- A star that is written stands for a covered table, and no column of that table is written
beside it. -/
theorem not_mem_columnNames_of_star (plain : schema.HasPlainColumns) {table x : String}
    (hstar : star table ∈ compressed schema q) (hx : x ∈ compressed schema q) :
    x ∉ schema.columnNames table := by
  unfold compressed at hstar hx
  rcases compress_eq_or schema (resolve schema q) q.tables with heq | ⟨heq, -, -⟩
  · rw [heq, mem_foldl_compressTable plain] at hstar hx
    rcases hstar with ⟨other, hother, covered, hsame⟩ | ⟨hresolved, -⟩
    · obtain rfl := star_injective hsame
      rcases hx with ⟨third, -, -, rfl⟩ | ⟨-, hfree⟩
      · exact star_not_mem_columnNames plain third table
      · exact hfree table hother covered
    · have hname := isStar_eq_false_of_mem_resolve plain hresolved
      rw [isStar_star] at hname
      cases hname
  · rw [heq, List.mem_singleton] at hstar
    exact absurd hstar (star_ne_wildcard table)

theorem wildcard_not_mem_foldl (plain : schema.HasPlainColumns) :
    "*" ∉ q.tables.foldl (compressTable schema (resolve schema q)) (resolve schema q) := by
  rw [mem_foldl_compressTable plain]
  rintro (⟨table, -, -, hstar⟩ | ⟨hresolved, -⟩)
  · exact star_ne_wildcard table hstar.symm
  · exact (projectable_of_mem_resolve plain hresolved).ne_wildcard rfl

/-- Writing the columns of a query with stars neither adds nor drops one of them. No entry is
written twice, no column beside the star of a table that has it, and nothing beside a star for
all tables. -/
theorem compressed_projects (plain : schema.HasPlainColumns) (q : Select) :
    (∀ x, x ∈ resolve schema (withStars schema q) ↔ x ∈ resolve schema q) ∧
      (compressed schema q).Nodup ∧
      (∀ table, star table ∈ compressed schema q → ∀ x ∈ compressed schema q,
        x ∉ schema.columnNames table) ∧
      ("*" ∈ compressed schema q → compressed schema q = ["*"]) := by
  refine ⟨fun _ => mem_resolve_withStars plain, nodup_compressed plain,
    fun _ hstar _ => not_mem_columnNames_of_star plain hstar, ?_⟩
  intro hwild
  rcases compress_eq_or schema (resolve schema q) q.tables with heq | ⟨heq, -, -⟩
  · rw [compressed, heq] at hwild
    exact absurd hwild (wildcard_not_mem_foldl plain)
  · exact heq

/-- The last flight of all, with what is known of flights and of their carriers. -/
def latestFlights : Select :=
  .new [.call "max" [.identifier "id"], .identifier "flights.*", .identifier "name"]
    (.naturalJoin (.bare "flights") (.bare "carriers"))

/-- Both tables are covered, though they share a column. -/
theorem compressed_projects_latest :
    Schema.flights.HasPlainColumns ∧
      compressed .flights latestFlights = ["carriers.*", "flights.*", "max(id)"] ∧
      (∀ x, x ∈ resolve .flights (withStars .flights latestFlights) ↔
        x ∈ ["max(id)", "id", "carrier_id", "name"]) ∧
      "max(id)" ∉ Schema.flights.columnNames "carriers" := by
  obtain ⟨hresolve, -, hstars, -⟩ :=
    @compressed_projects .flights (by decide) latestFlights
  exact ⟨by decide, by decide, hresolve, hstars "carriers" (by decide) "max(id)" (by decide)⟩

/-! Written again -/

/-- One star for all tables, in place of the stars for each of them. -/
def gathered (written tables : List String) : List String :=
  if !written.isEmpty && written.all isStar && written.length = tables.length then ["*"]
  else written

theorem compress_eq_gathered (schema : Schema) (columns tables : List String) :
    compress schema columns tables =
      gathered (tables.foldl (compressTable schema columns) columns) tables := rfl

/-- A table that had a star has lost its columns to it, and a table that had none still lacks
one. -/
theorem not_isCovered_written (plain : schema.HasPlainColumns) {table : String}
    (htable : table ∈ tables) :
    ¬ IsCovered schema (tables.foldl (compressTable schema columns) columns) table = true := by
  intro again
  have hwritten : ∀ name ∈ schema.columnNames table, name ∈ columns ∧
      ∀ other ∈ tables, IsCovered schema columns other = true →
        name ∉ schema.columnNames other := by
    intro name hname
    rcases (mem_foldl_compressTable plain ..).mp (mem_columns_of_isCovered again hname) with
      ⟨other, -, -, rfl⟩ | hkept
    · exact absurd hname (star_not_mem_columnNames plain other table)
    · exact hkept
  have covered : IsCovered schema columns table = true :=
    isCovered_iff.mpr ⟨(isCovered_iff.mp again).1, fun name hname => (hwritten name hname).1⟩
  obtain ⟨name, hname⟩ := exists_mem_of_isCovered again
  exact (hwritten name hname).2 table htable covered hname

theorem not_isCovered_wildcard (plain : schema.HasPlainColumns) (table : String) :
    ¬ IsCovered schema ["*"] table = true := by
  intro covered
  obtain ⟨name, hname⟩ := exists_mem_of_isCovered covered
  exact (isColumnName_of_mem_columnNames plain hname).ne_wildcard
    (List.mem_singleton.mp (mem_columns_of_isCovered covered hname))

theorem compress_compress (plain : schema.HasPlainColumns) (columns tables : List String) :
    compress schema (compress schema columns tables) tables = compress schema columns tables := by
  rcases compress_eq_or schema columns tables with heq | ⟨heq, -, -⟩
  · rw [heq, compress_eq_gathered, foldl_compressTable_of_not_isCovered
      (fun _ => not_isCovered_written plain), ← compress_eq_gathered, heq]
  · rw [heq, compress_eq_gathered, foldl_compressTable_of_not_isCovered
      (fun table _ => not_isCovered_wildcard plain table)]
    simp [gathered, isStar, Text.endsWith]

/-! Items written again -/

theorem flatMap_expand_rebuildItems (hcolumns : ∀ x ∈ columns, Projectable items x) :
    (rebuildItems items columns).flatMap (expand schema tables) = columns := by
  induction columns with
  | nil => rfl
  | cons column rest ih =>
      obtain ⟨hcolumn, hrest⟩ := List.forall_mem_cons.mp hcolumns
      rw [rebuildItems_eq_map, List.map_cons, List.flatMap_cons, expand_rebuildItem hcolumn,
        ← rebuildItems_eq_map, ih hrest, List.singleton_append]

theorem flatMap_expand_rebuildItems_star (names : List String) :
    (rebuildItems items (names.map star)).flatMap (expand schema tables) =
      names.flatMap schema.columnNames := by
  rw [rebuildItems_eq_map, List.map_map, List.flatMap_map]
  congr 1
  funext table
  rw [Function.comp, rebuildItem_of_isStar (isStar_star table), expand_star]

/-- The rebuilt items stand for columns of covered tables first, and then for the columns that
stand under no star, in their order. -/
theorem exists_expand_withStars (plain : schema.HasPlainColumns) (q : Select) :
    ∃ front, (∀ x ∈ front, x ∈ starredNames schema (resolve schema q) q.tables) ∧
      (withStars schema q).items.flatMap (expand schema q.tables) =
        front ++ starless schema (resolve schema q) q.tables := by
  have hstars : ∀ x ∈ resolve schema q, isStar x = false :=
    fun _ => isStar_eq_false_of_mem_resolve plain
  rcases compress_eq_or schema (resolve schema q) q.tables with heq | ⟨heq, hall, hlength⟩
  · have hprojectable : ∀ x ∈ starless schema (resolve schema q) q.tables,
        Projectable q.items x :=
      fun x hx => projectable_of_mem_resolve plain (mem_starless_iff.mp hx).1
    refine ⟨(q.tables.filter (IsCovered schema (resolve schema q))).reverse.flatMap
      schema.columnNames, fun x hx => by simpa [starredNames] using hx, ?_⟩
    rw [withStars, compressed, heq, foldl_compressTable_columns plain, ← List.map_reverse,
      rebuildItems_eq_map, List.map_append, List.flatMap_append, ← rebuildItems_eq_map,
      ← rebuildItems_eq_map, flatMap_expand_rebuildItems_star,
      flatMap_expand_rebuildItems hprojectable]
  · have covered := forall_isCovered_of_all_isStar plain hstars hall hlength
    refine ⟨q.tables.flatMap schema.columnNames, ?_, ?_⟩
    · rw [starredNames, List.filter_eq_self.mpr covered]
      exact fun _ => id
    · rw [starless_eq_nil plain hstars hall, List.append_nil, withStars, compressed, heq,
        rebuildItems_eq_map, List.map_singleton, rebuildItem_wildcard, List.flatMap_singleton,
        expand_wildcard]

theorem starless_withStars (plain : schema.HasPlainColumns) (q : Select) :
    starless schema (resolve schema (withStars schema q)) q.tables =
      starless schema (resolve schema q) q.tables := by
  obtain ⟨front, hfront, hexpand⟩ := exists_expand_withStars plain q
  have hresolve : resolve schema (withStars schema q) =
      (front ++ starless schema (resolve schema q) q.tables).eraseDups := by
    rw [resolve, tables_withStars, hexpand]
  have hnames : starredNames schema (resolve schema (withStars schema q)) q.tables =
      starredNames schema (resolve schema q) q.tables :=
    starredNames_congr (fun _ => mem_resolve_withStars plain) q.tables
  have hnone : front.filter (!(starredNames schema (resolve schema q) q.tables).contains ·) =
      [] := by
    rw [List.filter_eq_nil_iff]
    intro x hx
    simp [hfront x hx]
  have hself : (starless schema (resolve schema q) q.tables).filter
      (!(starredNames schema (resolve schema q) q.tables).contains ·) =
        starless schema (resolve schema q) q.tables := by
    rw [starless, List.filter_filter]
    simp only [Bool.and_self]
  have hnodup : (starless schema (resolve schema q) q.tables).Nodup :=
    (resolve_nodup schema q).filter _
  rw [starless, hnames, hresolve, ← eraseDups_filter, List.filter_append, hnone, hself,
    List.nil_append, eraseDups_eq_self hnodup]

theorem compressed_eq_gathered (plain : schema.HasPlainColumns) (q : Select) :
    compressed schema q =
      gathered (((q.tables.filter (IsCovered schema (resolve schema q))).map star).reverse ++
        starless schema (resolve schema q) q.tables) q.tables := by
  rw [compressed, compress_eq_gathered, foldl_compressTable_columns plain]

/-- Compressing is done once: what is written with stars is left as it is, and a query whose
columns are written with stars is written so again. -/
theorem compressed_settles (plain : schema.HasPlainColumns) :
    (∀ columns tables, compress schema (compress schema columns tables) tables =
        compress schema columns tables) ∧
      ∀ q, compressed schema (withStars schema q) = compressed schema q := by
  refine ⟨compress_compress plain, fun q => ?_⟩
  rw [compressed_eq_gathered plain, compressed_eq_gathered plain, tables_withStars,
    starless_withStars plain, isCovered_congr fun _ => mem_resolve_withStars plain]

theorem compressed_settles_latest :
    Schema.flights.HasPlainColumns ∧
      (withStars .flights latestFlights).items =
        [.identifier "carriers.*", .identifier "flights.*", .call "max" [.identifier "id"]] ∧
      compressed .flights (withStars .flights latestFlights) =
        ["carriers.*", "flights.*", "max(id)"] ∧
      compress .flights ["flights.*", "flights.*", "name"] ["flights", "airports", "flights"] =
        ["flights.*", "flights.*", "name"] :=
  have h := @compressed_settles .flights (by decide)
  ⟨by decide, by decide, h.2 latestFlights,
    h.1 ["id", "carrier_id", "name"] ["flights", "airports", "flights"]⟩

end SelectTree.Edit
