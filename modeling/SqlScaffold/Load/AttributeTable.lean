/-!
Attributes of classes and values. Every class has those of a type and those of an object besides its
own, and every value those of an object.
-/

namespace SqlScaffold.Load

def attributeData : List (List String × List String) :=
  [ (["object"],
      ["__class__ __delattr__ __dir__ __doc__ __eq__ __format__ __ge__ __getattribute__",
       "__getstate__ __gt__ __hash__ __init__ __init_subclass__ __le__ __lt__ __ne__ __new__",
       "__reduce__ __reduce_ex__ __repr__ __setattr__ __sizeof__ __str__ __subclasshook__"]),
    (["type"],
      ["__base__ __bases__ __basicsize__ __call__ __dict__ __dictoffset__",
       "__flags__ __instancecheck__ __itemsize__ __module__ __mro__ __name__ __or__",
       "__prepare__ __qualname__ __ror__ __subclasscheck__ __subclasses__ __text_signature__",
       "__weakrefoffset__ mro"]),
    (["Exception"],
      ["__cause__ __context__ __setstate__ __suppress_context__ __traceback__ add_note args",
       "with_traceback"]),
    (["AttributeError"],
      ["name obj"]),
    (["BaseExceptionGroup"],
      ["__class_getitem__ derive exceptions message split subgroup"]),
    (["BlockingIOError BrokenPipeError ChildProcessError ConnectionAbortedError",
       "ConnectionError ConnectionRefusedError ConnectionResetError FileExistsError",
       "FileNotFoundError InterruptedError IsADirectoryError NotADirectoryError OSError",
       "PermissionError ProcessLookupError TimeoutError"],
      ["characters_written errno filename filename2 strerror"]),
    (["ExceptionGroup"],
      ["__class_getitem__ __weakref__ derive exceptions message split subgroup"]),
    (["ImportError ModuleNotFoundError"],
      ["msg name path"]),
    (["IndentationError SyntaxError TabError"],
      ["end_lineno end_offset filename lineno msg offset print_file_and_line text"]),
    (["NameError UnboundLocalError"],
      ["name"]),
    (["StopIteration"],
      ["value"]),
    (["SystemExit"],
      ["code"]),
    (["UnicodeDecodeError UnicodeEncodeError UnicodeTranslateError"],
      ["encoding end object reason start"]),
    (["bool int"],
      ["__abs__ __add__ __and__ __bool__ __ceil__ __divmod__ __float__ __floor__ __floordiv__",
       "__getnewargs__ __index__ __int__ __invert__ __lshift__ __mod__ __mul__ __neg__",
       "__pos__ __pow__ __radd__ __rand__ __rdivmod__ __rfloordiv__ __rlshift__ __rmod__",
       "__rmul__ __round__ __rpow__ __rrshift__ __rshift__ __rsub__ __rtruediv__ __rxor__",
       "__sub__ __truediv__ __trunc__ __xor__ as_integer_ratio bit_count bit_length conjugate",
       "denominator from_bytes imag numerator real to_bytes"]),
    (["bytearray"],
      ["__add__ __alloc__ __contains__ __delitem__ __getitem__ __iadd__ __imul__ __iter__",
       "__len__ __mod__ __mul__ __rmod__ __rmul__ __setitem__ append capitalize center clear",
       "copy count decode endswith expandtabs extend find fromhex hex index insert isalnum",
       "isalpha isascii isdigit islower isspace istitle isupper join ljust lower lstrip",
       "maketrans partition pop remove removeprefix removesuffix replace reverse rfind rindex",
       "rjust rpartition rsplit rstrip split splitlines startswith strip swapcase title",
       "translate upper zfill"]),
    (["bytes"],
      ["__add__ __bytes__ __contains__ __getitem__ __getnewargs__ __iter__ __len__ __mod__",
       "__mul__ __rmod__ __rmul__ capitalize center count decode endswith expandtabs find",
       "fromhex hex index isalnum isalpha isascii isdigit islower isspace istitle isupper",
       "join ljust lower lstrip maketrans partition removeprefix removesuffix replace rfind",
       "rindex rjust rpartition rsplit rstrip split splitlines startswith strip swapcase",
       "title translate upper zfill"]),
    (["classmethod staticmethod"],
      ["__func__ __get__ __isabstractmethod__ __wrapped__"]),
    (["complex"],
      ["__abs__ __add__ __bool__ __complex__ __getnewargs__ __mul__ __neg__ __pos__ __pow__",
       "__radd__ __rmul__ __rpow__ __rsub__ __rtruediv__ __sub__ __truediv__ conjugate imag",
       "real"]),
    (["dict"],
      ["__class_getitem__ __contains__ __delitem__ __getitem__ __ior__ __iter__ __len__",
       "__reversed__ __setitem__ clear copy fromkeys get items keys pop popitem setdefault",
       "update values"]),
    (["enumerate"],
      ["__class_getitem__ __iter__ __next__"]),
    (["filter map"],
      ["__iter__ __next__"]),
    (["float"],
      ["__abs__ __add__ __bool__ __ceil__ __divmod__ __float__ __floor__ __floordiv__",
       "__getformat__ __getnewargs__ __int__ __mod__ __mul__ __neg__ __pos__ __pow__ __radd__",
       "__rdivmod__ __rfloordiv__ __rmod__ __rmul__ __round__ __rpow__ __rsub__ __rtruediv__",
       "__sub__ __truediv__ __trunc__ as_integer_ratio conjugate fromhex hex imag is_integer",
       "real"]),
    (["frozenset"],
      ["__and__ __class_getitem__ __contains__ __iter__ __len__ __rand__ __rsub__ __rxor__",
       "__sub__ __xor__ copy difference intersection isdisjoint issubset issuperset",
       "symmetric_difference union"]),
    (["list"],
      ["__add__ __class_getitem__ __contains__ __delitem__ __getitem__ __iadd__ __imul__",
       "__iter__ __len__ __mul__ __reversed__ __rmul__ __setitem__ append clear copy count",
       "extend index insert pop remove reverse sort"]),
    (["memoryview"],
      ["__delitem__ __enter__ __exit__ __getitem__ __iter__ __len__ __setitem__ c_contiguous",
       "cast contiguous f_contiguous format hex itemsize nbytes ndim obj readonly release",
       "shape strides suboffsets tobytes tolist toreadonly"]),
    (["property"],
      ["__delete__ __get__ __isabstractmethod__ __set__ __set_name__ deleter fdel fget fset",
       "getter setter"]),
    (["range"],
      ["__bool__ __contains__ __getitem__ __iter__ __len__ __reversed__ count index start",
       "step stop"]),
    (["reversed"],
      ["__iter__ __length_hint__ __next__ __setstate__"]),
    (["set"],
      ["__and__ __class_getitem__ __contains__ __iand__ __ior__ __isub__ __iter__ __ixor__",
       "__len__ __rand__ __rsub__ __rxor__ __sub__ __xor__ add clear copy difference",
       "difference_update discard intersection intersection_update isdisjoint issubset",
       "issuperset pop remove symmetric_difference symmetric_difference_update union update"]),
    (["slice"],
      ["indices start step stop"]),
    (["str"],
      ["__add__ __contains__ __getitem__ __getnewargs__ __iter__ __len__ __mod__ __mul__",
       "__rmod__ __rmul__ capitalize casefold center count encode endswith expandtabs find",
       "format format_map index isalnum isalpha isascii isdecimal isdigit isidentifier",
       "islower isnumeric isprintable isspace istitle isupper join ljust lower lstrip",
       "maketrans partition removeprefix removesuffix replace rfind rindex rjust rpartition",
       "rsplit rstrip split splitlines startswith strip swapcase title translate upper zfill"]),
    (["super"],
      ["__get__ __self__ __self_class__ __thisclass__"]),
    (["tuple"],
      ["__add__ __class_getitem__ __contains__ __getitem__ __getnewargs__ __iter__ __len__",
       "__mul__ __rmul__ count index"]),
    (["zip"],
      ["__iter__ __next__ __setstate__"]),
    (["date"],
      ["__add__ __radd__ __rsub__ __sub__ ctime day fromisocalendar fromisoformat fromordinal",
       "fromtimestamp isocalendar isoformat isoweekday max min month replace resolution",
       "strftime timetuple today toordinal weekday year"]),
    (["time"],
      ["dst fold fromisoformat hour isoformat max microsecond min minute replace resolution",
       "second strftime tzinfo tzname utcoffset"]),
    (["datetime"],
      ["__add__ __radd__ __rsub__ __sub__ astimezone combine ctime date day dst fold",
       "fromisocalendar fromisoformat fromordinal fromtimestamp hour isocalendar isoformat",
       "isoweekday max microsecond min minute month now replace resolution second strftime",
       "strptime time timestamp timetuple timetz today toordinal tzinfo tzname",
       "utcfromtimestamp utcnow utcoffset utctimetuple weekday year"]),
    (["timedelta"],
      ["__abs__ __add__ __bool__ __divmod__ __floordiv__ __mod__ __mul__ __neg__ __pos__",
       "__radd__ __rdivmod__ __rfloordiv__ __rmod__ __rmul__ __rsub__ __rtruediv__ __sub__",
       "__truediv__ days max microseconds min resolution seconds total_seconds"]),
    (["tzinfo"],
      ["dst fromutc tzname utcoffset"]),
    (["timezone"],
      ["__getinitargs__ dst fromutc max min tzname utc utcoffset"]),
    (["Decimal"],
      ["__abs__ __add__ __bool__ __ceil__ __complex__ __copy__ __deepcopy__ __divmod__",
       "__float__ __floor__ __floordiv__ __int__ __mod__ __mul__ __neg__ __pos__ __pow__",
       "__radd__ __rdivmod__ __rfloordiv__ __rmod__ __rmul__ __round__ __rpow__ __rsub__",
       "__rtruediv__ __sub__ __truediv__ __trunc__ adjusted as_integer_ratio as_tuple",
       "canonical compare compare_signal compare_total compare_total_mag conjugate copy_abs",
       "copy_negate copy_sign exp fma from_float imag is_canonical is_finite is_infinite",
       "is_nan is_normal is_qnan is_signed is_snan is_subnormal is_zero ln log10 logb",
       "logical_and logical_invert logical_or logical_xor max max_mag min min_mag next_minus",
       "next_plus next_toward normalize number_class quantize radix real remainder_near",
       "rotate same_quantum scaleb shift sqrt to_eng_string to_integral to_integral_exact",
       "to_integral_value"]),
    (["Context"],
      ["Emax Emin Etiny Etop __copy__ _apply abs add canonical capitals clamp clear_flags",
       "clear_traps compare compare_signal compare_total compare_total_mag copy copy_abs",
       "copy_decimal copy_negate copy_sign create_decimal create_decimal_from_float divide",
       "divide_int divmod exp fma is_canonical is_finite is_infinite is_nan is_normal is_qnan",
       "is_signed is_snan is_subnormal is_zero ln log10 logb logical_and logical_invert",
       "logical_or logical_xor max max_mag min min_mag minus multiply next_minus next_plus",
       "next_toward normalize number_class plus power prec quantize radix remainder",
       "remainder_near rotate rounding same_quantum scaleb shift sqrt subtract to_eng_string",
       "to_integral to_integral_exact to_integral_value to_sci_string"]),
    (["UUID"],
      ["__int__ __setstate__ __slots__ __weakref__ bytes bytes_le clock_seq",
       "clock_seq_hi_variant clock_seq_low fields hex int is_safe node time time_hi_version",
       "time_low time_mid urn variant version"]),
    (["SafeUUID"],
      ["safe unknown unsafe"]),
    (["OrderedDict"],
      ["__class_getitem__ __contains__ __delitem__ __getitem__ __ior__ __iter__ __len__",
       "__reversed__ __setitem__ clear copy fromkeys get items keys move_to_end pop popitem",
       "setdefault update values"]),
    (["Any"],
      ["__weakref__"]),
    (["Generic"],
      ["__class_getitem__ __slots__ _is_protocol"]),
    (["Protocol"],
      ["__class_getitem__ __parameters__ __slots__ _abc_caches_clear _abc_impl",
       "_abc_registry_clear _dump_registry _is_protocol _is_runtime_protocol register"]),
    (["TypeVar"],
      ["__copy__ __deepcopy__ __slots__ __typing_subst__ __weakref__"]),
    (["Context UUID"],
      ["__module__"]),
    (["ParamSpec"],
      ["args kwargs"]),
    (["NewType"],
      ["__mro_entries__ __weakref__"]),
    (["Annotated"],
      ["__class_getitem__ __slots__ _class_getitem_inner"]),
    (["IO"],
      ["__class_getitem__ __enter__ __exit__ __orig_bases__ __parameters__ __slots__",
       "_is_protocol close closed fileno flush isatty mode name read readable readline",
       "readlines seek seekable tell truncate writable write writelines"]),
    (["SupportsInt"],
      ["__class_getitem__ __int__ __parameters__ __slots__ _abc_caches_clear _abc_impl",
       "_abc_registry_clear _dump_registry _is_protocol _is_runtime_protocol register"]),
    (["deque"],
      ["__add__ __class_getitem__ __contains__ __copy__ __delitem__ __getitem__ __iadd__",
       "__imul__ __iter__ __len__ __mul__ __reversed__ __rmul__ __setitem__ append appendleft",
       "clear copy count extend extendleft index insert maxlen pop popleft remove reverse",
       "rotate"]),
    (["Counter"],
      ["__add__ __and__ __class_getitem__ __contains__ __delitem__ __getitem__ __iadd__",
       "__iand__ __ior__ __isub__ __iter__ __len__ __missing__ __neg__ __pos__ __reversed__",
       "__setitem__ __sub__ __weakref__ _keep_positive clear copy elements fromkeys get items",
       "keys most_common pop popitem setdefault subtract total update values"]),
    (["ChainMap"],
      ["_MutableMapping__marker __bool__ __class_getitem__ __contains__ __copy__ __delitem__",
       "__getitem__ __ior__ __iter__ __len__ __missing__ __reversed__ __setitem__ __slots__",
       "__weakref__ _abc_caches_clear _abc_impl _abc_registry_clear _dump_registry clear copy",
       "fromkeys get items keys new_child parents pop popitem register setdefault update",
       "values"]),
    (["defaultdict"],
      ["__class_getitem__ __contains__ __copy__ __delitem__ __getitem__ __ior__ __iter__",
       "__len__ __missing__ __reversed__ __setitem__ clear copy default_factory fromkeys get",
       "items keys pop popitem setdefault update values"]),
    (["builtin_function_or_method"],
      ["__call__ __module__ __name__ __qualname__ __self__ __text_signature__"]),
    (["function"],
      ["__annotations__ __builtins__ __call__ __closure__ __code__ __defaults__ __dict__",
       "__get__ __globals__ __kwdefaults__ __module__ __name__ __qualname__"]),
    (["NoneType NotImplementedType"],
      ["__bool__"]),
    (["TypeVar"],
      ["__bound__ __constraints__ __contravariant__ __copy__ __covariant__ __deepcopy__",
       "__dict__ __module__ __name__ __or__ __ror__ __slots__ __typing_subst__ __weakref__"]),
    (["_SpecialForm"],
      ["__call__ __getattr__ __getitem__ __instancecheck__ __iter__ __module__",
       "__mro_entries__ __name__ __or__ __qualname__ __ror__ __slots__ __subclasscheck__",
       "__weakref__ _getitem _name"]),
    (["_SpecialGenericAlias"],
      ["__call__ __dict__ __getattr__ __getitem__ __instancecheck__ __module__ __mro_entries__",
       "__name__ __or__ __origin__ __qualname__ __ror__ __slots__ __subclasscheck__ __weakref__",
       "_inst _name _nparams copy_with"]),
    (["Awaitable Coroutine AsyncIterable AsyncIterator AsyncGenerator Hashable Iterable",
      "Iterator Generator Reversible Sized Container Callable Collection Set MutableSet",
      "Mapping MutableMapping MappingView KeysView ItemsView ValuesView Sequence ByteString",
      "MutableSequence AbstractContextManager AbstractAsyncContextManager"],
      ["_abc_caches_clear _abc_impl _abc_registry_clear _dump_registry register"]),
    (["Coroutine Generator"],
      ["close send throw"]),
    (["AsyncGenerator"],
      ["aclose asend athrow"]),
    (["Set"],
      ["_from_iterable _hash isdisjoint"]),
    (["MutableSet"],
      ["_from_iterable _hash add clear discard isdisjoint pop remove"]),
    (["Mapping"],
      ["get items keys values"]),
    (["MutableMapping"],
      ["_MutableMapping__marker clear get items keys pop popitem setdefault update values"]),
    (["MappingView ValuesView"],
      ["_mapping"]),
    (["KeysView ItemsView"],
      ["_from_iterable _hash _mapping isdisjoint"]),
    (["Sequence ByteString"],
      ["count index"]),
    (["MutableSequence"],
      ["append clear count extend index insert pop remove reverse"]),
    (["Match"],
      ["end endpos expand group groupdict groups lastgroup lastindex pos re regs span start",
       "string"]),
    (["Pattern"],
      ["findall finditer flags fullmatch groupindex groups match pattern scanner search",
       "split sub subn"]),
    (["Enum SafeUUID"],
      ["__bool__ __contains__ __getattr__ __getitem__ __iter__ __len__ __members__",
       "__reversed__ _check_for_existing_members_ _convert_ _create_ _find_data_repr_",
       "_find_data_type_ _find_new_ _get_mixins_"]),
    (["ModuleSpec"],
      ["__dict__ __module__ __weakref__ _cached _initializing _set_fileattr",
       "_uninitialized_submodules cached has_location loader loader_state name origin parent",
       "submodule_search_locations"]),
    (["SourceFileLoader"],
      ["__dict__ __module__ __weakref__ _cache_bytecode create_module exec_module get_code",
       "get_data get_filename get_resource_reader get_source is_package load_module name",
       "path path_mtime path_stats set_data source_to_code"]) ]

end SqlScaffold.Load
