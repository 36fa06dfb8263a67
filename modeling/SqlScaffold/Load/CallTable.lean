/-!
Failures of calls. What stands here fails whatever text it is called with; a percent sign in the
message stands for its name.
-/

namespace SqlScaffold.Load

structure CallFault where
  exception : String
  message : String
  members : String

def callFaults : List (String × List CallFault) :=
  [ ("builtins",
      [⟨"TypeError", "%.__new__() takes exactly 2 arguments (1 given)", "BaseExceptionGroup"⟩,
       ⟨"TypeError",
        "BaseExceptionGroup.__new__() takes exactly 2 arguments (1 given)",
        "ExceptionGroup"⟩,
       ⟨"TypeError",
        "function takes exactly 5 arguments (1 given)",
        "UnicodeDecodeError UnicodeEncodeError"⟩,
       ⟨"TypeError", "function takes exactly 4 arguments (1 given)", "UnicodeTranslateError"⟩,
       ⟨"TypeError", "%: not enough arguments", "__build_class__"⟩,
       ⟨"TypeError", "BuiltinImporter() takes no arguments", "__loader__"⟩,
       ⟨"TypeError", "bad operand type for %(): 'str'", "abs"⟩,
       ⟨"TypeError", "'str' object is not an async iterable", "aiter"⟩,
       ⟨"TypeError", "'str' object is not an async iterator", "anext"⟩,
       ⟨"TypeError", "'str' object cannot be interpreted as an integer", "bin chr hex oct range"⟩,
       ⟨"TypeError", "string argument without an encoding", "bytearray bytes"⟩,
       ⟨"TypeError", "%() missing required argument 'filename' (pos 2)", "compile"⟩,
       ⟨"TypeError",
        "% expected 2 arguments, got 1",
        "delattr divmod filter hasattr isinstance issubclass"⟩,
       ⟨"TypeError", "% expected at least 2 arguments, got 1", "getattr"⟩,
       ⟨"TypeError", "%() takes no arguments (1 given)", "globals locals"⟩,
       ⟨"TypeError", "%() must have at least two arguments.", "map"⟩,
       ⟨"TypeError", "%: a bytes-like object is required, not 'str'", "memoryview"⟩,
       ⟨"TypeError", "'str' object is not an iterator", "next"⟩,
       ⟨"TypeError", "%() takes no arguments", "object"⟩,
       ⟨"TypeError", "%() missing required argument 'exp' (pos 2)", "pow"⟩,
       ⟨"TypeError", "type str doesn't define __round__ method", "round"⟩,
       ⟨"TypeError", "% expected 3 arguments, got 1", "setattr"⟩,
       ⟨"TypeError", "%() argument 1 must be a type, not str", "super"⟩,
       ⟨"TypeError", "%() argument must have __dict__ attribute", "vars"⟩,
       ⟨"TypeError",
        "_Printer.__call__() takes 1 positional argument but 2 were given",
        "copyright credits license"⟩,
       ⟨"TypeError", "set_trace() takes 0 positional arguments but 1 was given", "breakpoint"⟩,
       ⟨"EOFError", "EOF when reading a line", "input"⟩]),
    ("collections",
      [⟨"TypeError", "%() takes no arguments", "_Link"⟩,
       ⟨"TypeError", "% expected 2 arguments, got 1", "_count_elements _tuplegetter"⟩,
       ⟨"TypeError", "eq expected 2 arguments, got 1", "_eq"⟩,
       ⟨"TypeError", "cannot create weak reference to 'str' object", "_proxy"⟩,
       ⟨"TypeError", "starmap expected 2 arguments, got 1", "_starmap"⟩,
       ⟨"TypeError", "first argument must be callable or None", "defaultdict"⟩,
       ⟨"TypeError", "%() missing 1 required positional argument: 'field_names'", "namedtuple"⟩]),
    ("datetime",
      [⟨"TypeError", "'str' object cannot be interpreted as an integer", "date datetime time"⟩,
       ⟨"TypeError", "unsupported type for % days component: str", "timedelta"⟩,
       ⟨"TypeError", "%() argument 1 must be datetime.timedelta, not str", "timezone"⟩]),
    ("decimal",
      [⟨"TypeError", "an integer is required", "Context"⟩,
       ⟨"TypeError",
        "%.__new__() missing 2 required positional arguments: 'digits' and 'exponent'",
        "DecimalTuple"⟩,
       ⟨"TypeError", "decimal.%() takes no arguments (1 given)", "getcontext"⟩,
       ⟨"TypeError", "optional argument must be a context", "localcontext"⟩,
       ⟨"TypeError", "argument must be a context", "setcontext"⟩]),
    ("json",
      [⟨"TypeError",
        "%.__init__() missing 2 required positional arguments: 'doc' and 'pos'",
        "JSONDecodeError"⟩]),
    ("typing",
      [⟨"TypeError",
        "%.__new__() missing 2 required positional arguments: 'bases' and 'namespace'",
        "ABCMeta"⟩,
       ⟨"TypeError",
        "ABCMeta.__new__() missing 2 required positional arguments: 'bases' and 'namespace'",
        "_ProtocolMeta"⟩,
       ⟨"TypeError", "Set() takes no arguments", "AbstractSet"⟩,
       ⟨"TypeError", "Type % cannot be instantiated.", "Annotated"⟩,
       ⟨"TypeError", "% cannot be instantiated", "Any"⟩,
       ⟨"TypeError", "AbstractAsyncContextManager() takes no arguments", "AsyncContextManager"⟩,
       ⟨"TypeError",
        "%() takes no arguments",
        "AsyncGenerator AsyncIterable AsyncIterator Awaitable BinaryIO"⟩,
       ⟨"TypeError",
        "%() takes no arguments",
        "ByteString Callable Collection Container Coroutine Generator Generic"⟩,
       ⟨"TypeError",
        "%() takes no arguments",
        "Hashable IO Iterable Iterator Mapping MutableMapping MutableSequence"⟩,
       ⟨"TypeError",
        "%() takes no arguments",
        "MutableSet Protocol Reversible Sequence Sized TextIO _Final _Immutable"⟩,
       ⟨"TypeError",
        "%() takes no arguments",
        "_NotIterable _PickleUsingNameMixin _TypingEllipsis"⟩,
       ⟨"TypeError",
        "Cannot instantiate typing.%",
        "ClassVar Concatenate Final Literal LiteralString Never NoReturn"⟩,
       ⟨"TypeError",
        "Cannot instantiate typing.%",
        "NotRequired Optional Required Self TypeAlias TypeGuard Union Unpack"⟩,
       ⟨"TypeError", "AbstractContextManager() takes no arguments", "ContextManager"⟩,
       ⟨"TypeError", "first argument must be callable or None", "DefaultDict defaultdict"⟩,
       ⟨"TypeError", "Type % cannot be instantiated; use dict() instead", "Dict"⟩,
       ⟨"TypeError", "Type % cannot be instantiated; use frozenset() instead", "FrozenSet"⟩,
       ⟨"TypeError", "% expected 2 arguments, got 1", "GenericAlias"⟩,
       ⟨"TypeError", "Type % cannot be instantiated; use list() instead", "List"⟩,
       ⟨"TypeError", "cannot create 're.%' instances", "Match Pattern"⟩,
       ⟨"TypeError", "cannot create 'method_descriptor' instances", "MethodDescriptorType"⟩,
       ⟨"TypeError", "cannot create 'method-wrapper' instances", "MethodWrapperType"⟩,
       ⟨"TypeError",
        "%.__new__() missing 2 required positional arguments: 'bases' and 'ns'",
        "NamedTupleMeta _TypedDictMeta"⟩,
       ⟨"TypeError", "%.__init__() missing 1 required positional argument: 'tp'", "NewType"⟩,
       ⟨"TypeError", "Type % cannot be instantiated; use set() instead", "Set"⟩,
       ⟨"TypeError",
        "Can't instantiate abstract class % with abstract method __abs__",
        "SupportsAbs"⟩,
       ⟨"TypeError",
        "Can't instantiate abstract class % with abstract method __bytes__",
        "SupportsBytes"⟩,
       ⟨"TypeError",
        "Can't instantiate abstract class % with abstract method __complex__",
        "SupportsComplex"⟩,
       ⟨"TypeError",
        "Can't instantiate abstract class % with abstract method __float__",
        "SupportsFloat"⟩,
       ⟨"TypeError",
        "Can't instantiate abstract class % with abstract method __index__",
        "SupportsIndex"⟩,
       ⟨"TypeError",
        "Can't instantiate abstract class % with abstract method __int__",
        "SupportsInt"⟩,
       ⟨"TypeError",
        "Can't instantiate abstract class % with abstract method __round__",
        "SupportsRound"⟩,
       ⟨"TypeError", "Type % cannot be instantiated; use tuple() instead", "Tuple"⟩,
       ⟨"TypeError", "% % cannot be instantiated; use type() instead", "Type"⟩,
       ⟨"TypeError", "cannot create 'wrapper_descriptor' instances", "WrapperDescriptorType"⟩,
       ⟨"TypeError",
        "%.__init__() missing 1 required positional argument: 'metadata'",
        "_AnnotatedAlias"⟩,
       ⟨"TypeError",
        "type.__new__() takes exactly 3 arguments (1 given)",
        "_AnyMeta _DeprecatedType"⟩,
       ⟨"TypeError",
        "%.__init__() missing 2 required positional arguments: 'covariant' and 'contravariant'",
        "_BoundVarianceMixin"⟩,
       ⟨"TypeError",
        "_GenericAlias.__init__() missing 1 required positional argument: 'args'",
        "_CallableGenericAlias _ConcatenateGenericAlias _LiteralGenericAlias"⟩,
       ⟨"TypeError",
        "_GenericAlias.__init__() missing 1 required positional argument: 'args'",
        "_UnionGenericAlias _UnpackGenericAlias"⟩,
       ⟨"TypeError",
        "%.__init__() missing 1 required positional argument: 'args'",
        "_GenericAlias"⟩,
       ⟨"TypeError",
        "_SpecialGenericAlias.__init__() missing 1 required positional argument: 'nparams'",
        "_CallableType _TupleType _alias"⟩,
       ⟨"TypeError",
        "%.__init__() missing 1 required positional argument: 'nparams'",
        "_SpecialGenericAlias"⟩,
       ⟨"AttributeError",
        "'str' object has no attribute '__name__'",
        "_LiteralSpecialForm _SpecialForm"⟩,
       ⟨"TypeError", "NamedTuple() takes no arguments", "_NamedTuple"⟩,
       ⟨"TypeError",
        "can only concatenate str (not \"int\") to str",
        "_allow_reckless_class_checks _caller"⟩,
       ⟨"TypeError",
        "%() missing 2 required positional arguments: 'parameters' and 'elen'",
        "_check_generic"⟩,
       ⟨"TypeError",
        "%() missing 1 required positional argument: 'second_args'",
        "_compare_args_orderless"⟩,
       ⟨"TypeError",
        "%() missing 2 required positional arguments: 'globalns' and 'localns'",
        "_eval_type"⟩,
       ⟨"AttributeError",
        "'str' object has no attribute '__mro__'",
        "_get_protocol_attrs _is_callable_members_only"⟩,
       ⟨"TypeError",
        "%() missing 2 required positional arguments: 'types' and 'module'",
        "_make_nmtuple"⟩,
       ⟨"TypeError",
        "'in <string>' requires string as left operand, not function",
        "_namedtuple_mro_entries"⟩,
       ⟨"AttributeError",
        "type object 'str' has no attribute '_is_protocol'",
        "_no_init_or_replace_init"⟩,
       ⟨"NotImplementedError",
        "You should not call an overloaded function. A series of @overload-decorated functions outside a stub module should always be followed by an implementation that is not @overload-ed.",
        "_overload_dummy"⟩,
       ⟨"TypeError",
        "%() missing 1 required positional argument: 'args'",
        "_should_unflatten_callable_args"⟩,
       ⟨"TypeError", "the first argument must be callable", "_tp_cache"⟩,
       ⟨"TypeError", "%() missing 1 required positional argument: 'msg'", "_type_check"⟩,
       ⟨"AttributeError",
        "'str' object has no attribute '__isabstractmethod__'",
        "abstractmethod"⟩,
       ⟨"TypeError", "%() missing 1 required positional argument: 'typ'", "assert_type"⟩,
       ⟨"TypeError", "%() missing 1 required positional argument: 'val'", "cast"⟩,
       ⟨"TypeError",
        "%() takes 0 positional arguments but 1 was given",
        "clear_overloads dataclass_transform"⟩,
       ⟨"AttributeError", "'str' object has no attribute '__module__'", "get_overloads"⟩,
       ⟨"TypeError", "typing.%() takes no arguments", "io re"⟩,
       ⟨"AttributeError", "'str' object has no attribute '__no_type_check__'", "no_type_check"⟩,
       ⟨"TypeError", "issubclass() arg 1 must be a class", "runtime_checkable"⟩]),
    ("uuid",
      [⟨"TypeError", "<enum '%'> has no members defined", "Enum"⟩,
       ⟨"ValueError", "badly formed hexadecimal % string", "UUID"⟩,
       ⟨"TypeError",
        "%() takes 0 positional arguments but 1 was given",
        "_arp_getnode _ifconfig_getnode _ip_getnode _ipconfig_getnode"⟩,
       ⟨"TypeError",
        "%() takes 0 positional arguments but 1 was given",
        "_lanscan_getnode _load_system_functions _netbios_getnode"⟩,
       ⟨"TypeError",
        "%() takes 0 positional arguments but 1 was given",
        "_netstat_getnode _random_getnode _unix_getnode _windll_getnode getnode"⟩,
       ⟨"TypeError", "%() takes 0 positional arguments but 1 was given", "uuid4"⟩,
       ⟨"TypeError",
        "%() missing 3 required positional arguments: 'args', 'keywords', and 'get_word_index'",
        "_find_mac_near_keyword"⟩,
       ⟨"TypeError",
        "%() missing 2 required positional arguments: 'args' and 'heading'",
        "_find_mac_under_heading"⟩,
       ⟨"TypeError",
        "_uuid.generate_time_safe() takes no arguments (1 given)",
        "_generate_time_safe"⟩,
       ⟨"TypeError", "unsupported operand type(s) for &: 'str' and 'int'", "_is_universal"⟩,
       ⟨"TypeError", "must be str or None, not bytes", "_parse_mac"⟩,
       ⟨"TypeError", "string argument without an encoding", "bytes_"⟩,
       ⟨"TypeError", "'<=' not supported between instances of 'int' and 'str'", "uuid1"⟩,
       ⟨"TypeError", "%() missing 1 required positional argument: 'name'", "uuid3 uuid5"⟩]) ]

end SqlScaffold.Load
