/-!
Members of the modules of the program itself.
-/

namespace SqlScaffold.Load

def ownMemberData : List (String × List String) :=
  [ ("dsl_assist",
      ["class|Any=typing:Any ArtifactEmitter=dsl_assist.codegen.emitter:ArtifactEmitter",
        "class|GenerationReport=dsl_assist.codegen.core.generator:GenerationReport",
        "class|GeneratorConfig=dsl_assist.codegen.core.config:GeneratorConfig",
        "form|Optional",
        "function|dynamic_model generate generate_models",
        "hidden|Any ArtifactEmitter GenerationReport Optional generate_models",
        "of list|__all__",
        "of str|__version__",
        "shown|__version__"]),
    ("dsl_assist.annotations",
      ["class|DynamicModel",
        "form|Optional",
        "function|dataclass dynamic_model get_model_options",
        "of str|MODEL_MARKER"]),
    ("dsl_assist.codegen",
      ["class|Any=typing:Any ArtifactEmitter=dsl_assist.codegen.emitter:ArtifactEmitter",
        "class|CodeGenerator=dsl_assist.codegen.core.generator:CodeGenerator",
        "class|ConfigManager=dsl_assist.codegen.core.config:ConfigManager",
        "class|ConsoleEmitter=dsl_assist.codegen.emitter:ConsoleEmitter",
        "class|Field=dsl_assist.codegen.core.schema:Field",
        "class|FieldType=dsl_assist.codegen.core.schema:FieldType",
        "class|FileSystemEmitter=dsl_assist.codegen.emitter:FileSystemEmitter",
        "class|GenerationReport=dsl_assist.codegen.core.generator:GenerationReport",
        "class|GeneratorConfig=dsl_assist.codegen.core.config:GeneratorConfig",
        "class|InMemoryEmitter=dsl_assist.codegen.emitter:InMemoryEmitter",
        "class|JavaGenerator=dsl_assist.codegen.languages.java.generator:JavaGenerator",
        "class|Mapping=collections.abc:Mapping",
        "class|ModelDefinition=dsl_assist.codegen.core.schema:ModelDefinition",
        "class|SourceUnit=dsl_assist.codegen.core.generator:SourceUnit",
        "exception|EmissionError=dsl_assist.codegen.emitter:EmissionError",
        "exception|GeneratorError=dsl_assist.codegen.core.generator:GeneratorError",
        "exception|ScanError=dsl_assist.codegen.core.scanner:ScanError",
        "exception|TemplateError=dsl_assist.codegen.core.templates:TemplateError",
        "form|Iterable Optional",
        "function|generate_models get_logger load_config scan_model",
        "hidden|Any Iterable Mapping Optional get_logger inspect logger scan_model",
        "module|inspect",
        "of Logger|logger",
        "of list|__all__"]),
    ("dsl_assist.codegen.core",
      ["class|CodeGenerator=dsl_assist.codegen.core.generator:CodeGenerator",
        "class|ColumnBinding=dsl_assist.codegen.core.schema:ColumnBinding",
        "class|ConfigManager=dsl_assist.codegen.core.config:ConfigManager",
        "class|Diagnostic=dsl_assist.codegen.core.generator:Diagnostic",
        "class|Field=dsl_assist.codegen.core.schema:Field",
        "class|FieldType=dsl_assist.codegen.core.schema:FieldType",
        "class|GenerationReport=dsl_assist.codegen.core.generator:GenerationReport",
        "class|GeneratorConfig=dsl_assist.codegen.core.config:GeneratorConfig",
        "class|LogicalType=dsl_assist.codegen.core.schema:LogicalType",
        "class|ModelDefinition=dsl_assist.codegen.core.schema:ModelDefinition",
        "class|SourceUnit=dsl_assist.codegen.core.generator:SourceUnit",
        "class|TemplateEngine=dsl_assist.codegen.core.templates:TemplateEngine",
        "class|TypeMapper=dsl_assist.codegen.core.types:TypeMapper",
        "exception|ConfigError=dsl_assist.codegen.core.config:ConfigError",
        "exception|GeneratorError=dsl_assist.codegen.core.generator:GeneratorError",
        "exception|ScanError=dsl_assist.codegen.core.scanner:ScanError",
        "exception|TemplateError=dsl_assist.codegen.core.templates:TemplateError",
        "function|build_column_bindings entity_to_table_default field_to_column",
        "function|load_config map_declared_type scan_class scan_declaration scan_model",
        "function|to_accessor_name to_instance_name",
        "of list|__all__"]),
    ("dsl_assist.codegen.languages", []),
    ("dsl_assist.codegen.languages.java",
      ["class|GeneratedMapperInterface=dsl_assist.codegen.languages.java.mapper:GeneratedMapperInterface",
        "class|GeneratedTableDescriptor=dsl_assist.codegen.languages.java.descriptor:GeneratedTableDescriptor",
        "class|JavaGenerator=dsl_assist.codegen.languages.java.generator:JavaGenerator",
        "class|MapperOperation=dsl_assist.codegen.languages.java.mapper:MapperOperation",
        "function|build_mapper_interface build_table_descriptor",
        "of list|__all__"]),
    ("dsl_assist.logging_config",
      ["function|configure_logging get_logger",
        "hidden|LOG_FORMAT annotations logging",
        "module|logging",
        "of _Feature|annotations",
        "of list|__all__",
        "of str|LOG_FORMAT"]),
    ("dsl_assist.utils",
      ["class|Any=typing:Any Path=pathlib:Path",
        "exception|ModelLoaderError",
        "function|extract_declarations get_logger get_model_options load_models_from_file",
        "function|load_models_from_module load_models_from_url urlparse",
        "module|importlib inspect json requests",
        "of Logger|logger"]) ]

end SqlScaffold.Load
