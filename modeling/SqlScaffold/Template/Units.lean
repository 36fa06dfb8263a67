import SqlScaffold.Template.Part

/-!
The templates of the two units that are generated for a model: the class that describes its table,
and the interface that maps its rows.
-/

namespace SqlScaffold.Template

def value (name : String) : Part := .write (.variable name) .plain

def member (name field : String) : Part := .write (.member name field) .plain

def opening : List Part :=
  [.choose (.variable "header") [.write (.variable "header") .comment, .text "\n"] [],
    .choose (.variable "package") [.text "package ", value "package", .text ";\n\n"] [],
    .each "import_name" (.variable "imports") [.text "import ", value "import_name", .text ";\n"],
    .text "\n"]

def columnConstant : List Part :=
  [value "ind", .text "public static final SqlColumn<", member "column" "value_type", .text "> ",
    member "column" "name", .text " = ", value "instance_name", .text ".",
    member "column" "name", .text ";\n"]

def columnField : List Part :=
  [value "ind", value "ind", .text "public final SqlColumn<", member "column" "value_type",
    .text "> ", member "column" "name", .text " = column(",
    .write (.member "column" "column_name") .literal, .text ", JDBCType.",
    member "column" "jdbc_type", .text ");\n"]

def tableSupport : List Part :=
  opening ++
    [.text "public final class ", value "name", .text " \x7b\n",
      value "ind", .text "public static final ", value "entity_name", .text " ",
      value "instance_name", .text " = new ", value "entity_name", .text "();\n",
      .each "column" (.variable "columns") columnConstant,
      .text "\n",
      value "ind", .text "public static final class ", value "entity_name",
      .text " extends AliasableSqlTable<", value "entity_name", .text "> \x7b\n",
      .each "column" (.variable "columns") columnField,
      .text "\n",
      value "ind", value "ind", .text "public ", value "entity_name", .text "() \x7b\n",
      value "ind", value "ind", value "ind", .text "super(",
      .write (.variable "table_name") .literal, .text ", ", value "entity_name",
      .text "::new);\n",
      value "ind", value "ind", .text "\x7d\n",
      value "ind", .text "\x7d\n",
      .text "\x7d\n"]

def operation : List Part :=
  [.text "\n",
    .each "annotation" (.member "operation" "annotations")
      [.write (.variable "annotation") (.indented (.once (.variable "indent_size"))), .text "\n"],
    .choose (.member "operation" "legacy") [value "ind", .text "@Deprecated\n"] [],
    .choose (.member "operation" "is_default")
      [value "ind", .text "default ", member "operation" "signature", .text " \x7b\n",
        .write (.member "operation" "body") (.indented (.twice (.variable "indent_size"))),
        .text "\n", value "ind", .text "\x7d\n"]
      [value "ind", member "operation" "signature", .text ";\n"]]

def mapper : List Part :=
  opening ++
    [.text "public interface ", value "name", .text " extends ",
      .write (.variable "super_interfaces") (.joined ", "), .text " \x7b\n",
      value "ind", .text "BasicColumn[] selectList = BasicColumn.columnList(",
      .write (.variable "select_list") (.joined ", "), .text ");\n",
      .each "operation" (.variable "operations") operation,
      .text "\x7d\n"]

end SqlScaffold.Template
