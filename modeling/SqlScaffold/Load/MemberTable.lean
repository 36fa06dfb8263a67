/-!
Members of modules of the library. A line holds members of one sort: classes, exceptions, functions
that are built in or not, other things that can be called, modules, values of a kind, and the members
that a module keeps to itself. What a member is known by elsewhere stands behind its name.
-/

namespace SqlScaffold.Load

def memberData : List (String × List String) :=
  [ ("abc",
      ["builtin|_abc_init _abc_instancecheck _abc_register _abc_subclasscheck _get_dump",
        "builtin|_reset_caches _reset_registry get_cache_token",
        "class|ABC ABCMeta abstractclassmethod abstractproperty abstractstaticmethod",
        "function|abstractmethod update_abstractmethods"]),
    ("base64",
      ["function|_85encode _b32decode _b32encode _bytes_from_decode_data",
        "function|_input_type_check a85decode a85encode b16decode b16encode b32decode",
        "function|b32encode b32hexdecode b32hexencode b64decode b64encode b85decode",
        "function|b85encode decode decodebytes encode encodebytes main standard_b64decode",
        "function|standard_b64encode test urlsafe_b64decode urlsafe_b64encode",
        "hidden|MAXBINSIZE MAXLINESIZE binascii bytes_types main re struct test",
        "module|binascii re struct",
        "of NoneType|_a85chars _a85chars2 _b85chars _b85chars2 _b85dec",
        "of bytes|_A85END _A85START _b32alphabet _b32hexalphabet _b85alphabet",
        "of bytes|_urlsafe_decode_translation _urlsafe_encode_translation",
        "of dict|_b32rev _b32tab2",
        "of int|MAXBINSIZE MAXLINESIZE",
        "of list|__all__",
        "of str|_B32_DECODE_DOCSTRING _B32_DECODE_MAP01_DOCSTRING _B32_ENCODE_DOCSTRING",
        "of tuple|bytes_types"]),
    ("bisect",
      ["builtin|bisect bisect_left bisect_right insort insort_left insort_right"]),
    ("builtins",
      ["builtin|__build_class__ __import__",
        "callable|copyright credits exit help license quit",
        "of bool|__debug__"]),
    ("calendar",
      ["callable|calendar firstweekday month monthcalendar prcal prmonth prweek week",
        "callable|weekheader",
        "class|Calendar HTMLCalendar IllegalMonthError IllegalWeekdayError",
        "class|LocaleHTMLCalendar LocaleTextCalendar TextCalendar _localized_day",
        "class|_localized_month different_locale repeat=itertools:repeat",
        "exception|error=builtins:ValueError",
        "function|_get_default_locale _monthlen _nextmonth _prevmonth format formatstring",
        "function|isleap leapdays main monthrange setfirstweekday timegm weekday",
        "hidden|EPOCH February January c datetime different_locale error format",
        "hidden|formatstring main mdays prweek repeat sys week",
        "module|_locale=locale datetime sys",
        "of TextCalendar|c",
        "of _localized_day|day_abbr day_name",
        "of _localized_month|month_abbr month_name",
        "of int|EPOCH FRIDAY February January MONDAY SATURDAY SUNDAY THURSDAY TUESDAY",
        "of int|WEDNESDAY _EPOCH_ORD _colwidth _spacing",
        "of list|__all__ mdays"]),
    ("collections",
      ["builtin|_count_elements _eq _iskeyword _proxy",
        "class|ChainMap Counter OrderedDict UserDict UserList UserString _Link",
        "class|_OrderedDictItemsView _OrderedDictKeysView _OrderedDictValuesView",
        "class|_chain=itertools:chain _itemgetter=operator:itemgetter",
        "class|_repeat=itertools:repeat _starmap=itertools:starmap",
        "class|_tuplegetter=_collections:_tuplegetter defaultdict deque",
        "function|_recursive_repr namedtuple",
        "module|_collections_abc=collections.abc _sys=sys",
        "of list|__all__"]),
    ("collections.abc",
      ["class|AsyncGenerator AsyncIterable AsyncIterator Awaitable ByteString Callable",
        "class|Collection Container Coroutine Generator Hashable ItemsView Iterable",
        "class|Iterator KeysView Mapping MappingView MutableMapping MutableSequence",
        "class|MutableSet Reversible Sequence Set Sized ValuesView _CallableGenericAlias",
        "of list|__all__"]),
    ("contextlib",
      ["class|AbstractAsyncContextManager AbstractContextManager AsyncContextDecorator",
        "class|AsyncExitStack ContextDecorator ExitStack GenericAlias=types:GenericAlias",
        "class|MethodType=builtins:method _AsyncGeneratorContextManager _BaseExitStack",
        "class|_GeneratorContextManager _GeneratorContextManagerBase _RedirectStream",
        "class|aclosing chdir closing deque=collections:deque nullcontext redirect_stderr",
        "class|redirect_stdout suppress",
        "function|asynccontextmanager contextmanager wraps",
        "hidden|AsyncContextDecorator GenericAlias MethodType abc deque os sys wraps",
        "module|_collections_abc=collections.abc abc os sys",
        "of list|__all__"]),
    ("copy",
      ["exception|Error error=copy:Error",
        "function|_copy_immutable _deepcopy_atomic _deepcopy_dict _deepcopy_list",
        "function|_deepcopy_method _deepcopy_tuple _keep_alive _reconstruct copy deepcopy",
        "hidden|dispatch_table error",
        "of dict|_copy_dispatch _deepcopy_dispatch dispatch_table",
        "of list|__all__"]),
    ("dataclasses",
      ["class|Field FunctionType=builtins:function GenericAlias=types:GenericAlias",
        "class|InitVar _DataclassParams _FIELD_BASE _HAS_DEFAULT_FACTORY_CLASS",
        "class|_KW_ONLY_TYPE _MISSING_TYPE",
        "exception|FrozenInstanceError",
        "function|_add_slots _asdict_inner _astuple_inner _cmp_fn _create_fn",
        "function|_dataclass_getstate _dataclass_setstate _field_assign _field_init",
        "function|_fields_in_init_order _frozen_get_del_attr _get_field _get_slots",
        "function|_hash_add _hash_exception _hash_fn _hash_set_none _init_fn _init_param",
        "function|_is_classvar _is_dataclass_instance _is_initvar _is_kw_only _is_type",
        "function|_process_class _recursive_repr _repr_fn _set_new_attribute",
        "function|_set_qualname _tuple_str asdict astuple dataclass field fields",
        "function|is_dataclass make_dataclass replace",
        "hidden|FunctionType GenericAlias abc builtins copy functools inspect itertools",
        "hidden|keyword re sys types",
        "module|_thread abc builtins copy functools inspect itertools keyword re sys",
        "module|types",
        "of _FIELD_BASE|_FIELD _FIELD_CLASSVAR _FIELD_INITVAR",
        "of _HAS_DEFAULT_FACTORY_CLASS|_HAS_DEFAULT_FACTORY",
        "of _KW_ONLY_TYPE|KW_ONLY",
        "of _MISSING_TYPE|MISSING",
        "of dict|_hash_action",
        "of list|__all__",
        "of mappingproxy|_EMPTY_METADATA",
        "of re.Pattern|_MODULE_IDENTIFIER_RE",
        "of str|_FIELDS _PARAMS _POST_INIT_NAME"]),
    ("datetime",
      ["class|date datetime time timedelta timezone tzinfo",
        "hidden|datetime_CAPI sys",
        "module|sys",
        "of PyCapsule|datetime_CAPI",
        "of datetime.timezone|UTC",
        "of int|MAXYEAR MINYEAR",
        "of tuple|__all__"]),
    ("decimal",
      ["builtin|getcontext localcontext setcontext",
        "class|Context Decimal DecimalTuple",
        "exception|Clamped ConversionSyntax DecimalException DivisionByZero",
        "exception|DivisionImpossible DivisionUndefined FloatOperation Inexact",
        "exception|InvalidContext InvalidOperation Overflow Rounded Subnormal Underflow",
        "of bool|HAVE_CONTEXTVAR HAVE_THREADS",
        "of decimal.Context|BasicContext DefaultContext ExtendedContext",
        "of int|MAX_EMAX MAX_PREC MIN_EMIN MIN_ETINY",
        "of str|ROUND_05UP ROUND_CEILING ROUND_DOWN ROUND_FLOOR ROUND_HALF_DOWN",
        "of str|ROUND_HALF_EVEN ROUND_HALF_UP ROUND_UP __libmpdec_version__ __version__"]),
    ("enum",
      ["builtin|_or_ reduce",
        "class|DynamicClassAttribute=types:DynamicClassAttribute Enum EnumCheck",
        "class|EnumMeta=enum:EnumType EnumType Flag FlagBoundary IntEnum IntFlag",
        "class|MappingProxyType=builtins:mappingproxy ReprEnum StrEnum _EnumDict",
        "class|_proto_member auto member nonmember property verify",
        "function|_dedent _high_bit _is_descriptor _is_dunder _is_internal_class",
        "function|_is_private _is_single_bit _is_sunder _iter_bits_lsb",
        "function|_make_class_unpicklable _old_convert_ _power_of_two",
        "function|_reduce_ex_by_global_name _simple_enum _test_simple_enum bin",
        "function|global_enum global_enum_repr global_flag_repr global_str",
        "function|pickle_by_enum_name pickle_by_global_name show_flag_values unique",
        "hidden|DynamicClassAttribute MappingProxyType bin bltns reduce show_flag_values",
        "hidden|sys",
        "module|bltns=builtins sys",
        "of EnumCheck|CONTINUOUS NAMED_FLAGS UNIQUE",
        "of FlagBoundary|CONFORM EJECT KEEP STRICT",
        "of _auto_null|_auto_null",
        "of list|__all__",
        "of tuple|_stdlib_enums"]),
    ("fractions",
      ["class|Decimal=decimal:Decimal Fraction",
        "hidden|Decimal math numbers operator re sys",
        "module|math numbers operator re sys",
        "of int|_PyHASH_INF _PyHASH_MODULUS",
        "of list|__all__",
        "of re.Pattern|_RATIONAL_FORMAT"]),
    ("functools",
      ["builtin|cmp_to_key get_cache_token reduce",
        "class|GenericAlias=types:GenericAlias RLock=_thread:RLock",
        "class|_CacheInfo=functools:CacheInfo _HashedSeq _lru_cache_wrapper",
        "class|cached_property partial partialmethod singledispatchmethod",
        "function|_c3_merge _c3_mro _compose_mro _find_impl _ge_from_gt _ge_from_le",
        "function|_ge_from_lt _gt_from_ge _gt_from_le _gt_from_lt _le_from_ge _le_from_gt",
        "function|_le_from_lt _lt_from_ge _lt_from_gt _lt_from_le _make_key",
        "function|_unwrap_partial cache lru_cache namedtuple recursive_repr",
        "function|singledispatch total_ordering update_wrapper wraps",
        "hidden|GenericAlias RLock get_cache_token namedtuple recursive_repr",
        "of dict|_convert",
        "of list|__all__",
        "of object|_NOT_FOUND _initial_missing",
        "of tuple|WRAPPER_ASSIGNMENTS WRAPPER_UPDATES"]),
    ("hashlib",
      ["builtin|md5 pbkdf2_hmac scrypt sha1 sha224 sha256 sha384 sha3_224 sha3_256",
        "builtin|sha3_384 sha3_512 sha512 shake_128 shake_256",
        "class|blake2b=_blake2:blake2b blake2s=_blake2:blake2s",
        "function|__get_builtin_constructor file_digest new",
        "hidden|scrypt",
        "module|_hashlib",
        "of dict|__builtin_constructor_cache",
        "of set|__block_openssl_constructor algorithms_available algorithms_guaranteed",
        "of tuple|__all__"]),
    ("heapq",
      ["builtin|_heapify_max _heappop_max _heapreplace_max heapify heappop heappush",
        "builtin|heappushpop heapreplace",
        "function|_siftdown _siftdown_max _siftup _siftup_max merge nlargest nsmallest",
        "of list|__all__",
        "of str|__about__"]),
    ("html",
      ["function|_replace_charref escape unescape",
        "hidden|entities",
        "module|_re=re entities=html.entities",
        "of dict|_html5 _invalid_charrefs",
        "of list|__all__",
        "of re.Pattern|_charref",
        "of set|_invalid_codepoints"]),
    ("importlib",
      ["function|__import__ _pack_uint32 _unpack_uint32 find_loader import_module",
        "function|invalidate_caches reload",
        "hidden|find_loader machinery sys warnings",
        "module|_bootstrap=importlib._bootstrap",
        "module|_bootstrap_external=importlib._bootstrap_external _imp",
        "module|machinery=importlib.machinery sys warnings",
        "of dict|_RELOADING",
        "of list|__all__"]),
    ("inspect",
      ["builtin|iskeyword",
        "class|ArgInfo Arguments Attribute BlockFinder BoundArguments ClosureVars",
        "class|FrameInfo FullArgSpec OrderedDict=collections:OrderedDict Parameter",
        "class|Signature Traceback _ClassFinder _FrameInfo _ParameterKind _Traceback",
        "class|_empty _void attrgetter=operator:attrgetter",
        "exception|ClassFoundException EndOfBlock",
        "function|_check_class _check_instance _descriptor_get _findclass _finddoc",
        "function|_get_code_position _get_code_position_from_tb _getmembers",
        "function|_has_code_flag _is_type _main _missing_arguments _shadowed_dict",
        "function|_signature_bound_method _signature_from_builtin",
        "function|_signature_from_callable _signature_from_function _signature_fromstr",
        "function|_signature_get_partial _signature_get_user_defined_method",
        "function|_signature_is_builtin _signature_is_functionlike",
        "function|_signature_strip_non_python_syntax _static_getmro _too_many",
        "function|classify_class_attrs cleandoc currentframe findsource formatannotation",
        "function|formatannotationrelativeto formatargvalues get_annotations getabsfile",
        "function|getargs getargvalues getattr_static getblock getcallargs getclasstree",
        "function|getclosurevars getcomments getcoroutinelocals getcoroutinestate getdoc",
        "function|getfile getframeinfo getfullargspec getgeneratorlocals",
        "function|getgeneratorstate getinnerframes getlineno getmembers getmembers_static",
        "function|getmodule getmodulename getmro getouterframes getsource getsourcefile",
        "function|getsourcelines indentsize isabstract isasyncgen isasyncgenfunction",
        "function|isawaitable isbuiltin isclass iscode iscoroutine iscoroutinefunction",
        "function|isdatadescriptor isframe isfunction isgenerator isgeneratorfunction",
        "function|isgetsetdescriptor ismemberdescriptor ismethod ismethoddescriptor",
        "function|ismethodwrapper ismodule isroutine istraceback namedtuple signature",
        "function|stack trace unwrap walktree",
        "hidden|OrderedDict abc ast attrgetter builtins collections dis enum functools",
        "hidden|importlib iskeyword itertools linecache modulesbyfile namedtuple os re",
        "hidden|sys token tokenize types",
        "module|abc ast builtins collections dis enum functools importlib itertools",
        "module|linecache os re sys token tokenize types",
        "of _ParameterKind|_KEYWORD_ONLY _POSITIONAL_ONLY _POSITIONAL_OR_KEYWORD",
        "of _ParameterKind|_VAR_KEYWORD _VAR_POSITIONAL",
        "of dict|_filesbymodname modulesbyfile",
        "of int|CO_ASYNC_GENERATOR CO_COROUTINE CO_GENERATOR CO_ITERABLE_COROUTINE",
        "of int|CO_NESTED CO_NEWLOCALS CO_NOFREE CO_OPTIMIZED CO_VARARGS CO_VARKEYWORDS",
        "of int|TPFLAGS_IS_ABSTRACT",
        "of list|__all__",
        "of object|_sentinel",
        "of str|CORO_CLOSED CORO_CREATED CORO_RUNNING CORO_SUSPENDED GEN_CLOSED",
        "of str|GEN_CREATED GEN_RUNNING GEN_SUSPENDED",
        "of tuple|_NonUserDefinedCallables __author__"]),
    ("io",
      ["builtin|open open_code text_encoding",
        "class|BufferedIOBase BufferedRWPair=_io:BufferedRWPair",
        "class|BufferedRandom=_io:BufferedRandom BufferedReader=_io:BufferedReader",
        "class|BufferedWriter=_io:BufferedWriter BytesIO=_io:BytesIO FileIO=_io:FileIO",
        "class|IOBase IncrementalNewlineDecoder=_io:IncrementalNewlineDecoder RawIOBase",
        "class|StringIO=_io:StringIO TextIOBase TextIOWrapper=_io:TextIOWrapper",
        "exception|BlockingIOError=builtins:BlockingIOError UnsupportedOperation",
        "function|__getattr__",
        "hidden|abc",
        "module|_io=io abc",
        "of int|DEFAULT_BUFFER_SIZE SEEK_CUR SEEK_END SEEK_SET",
        "of list|__all__",
        "of str|__author__"]),
    ("itertools",
      ["builtin|tee",
        "class|_grouper _tee _tee_dataobject accumulate chain combinations",
        "class|combinations_with_replacement compress count cycle dropwhile filterfalse",
        "class|groupby islice pairwise permutations product repeat starmap takewhile",
        "class|zip_longest"]),
    ("json",
      ["class|JSONDecodeError=json.decoder:JSONDecodeError",
        "class|JSONDecoder=json.decoder:JSONDecoder JSONEncoder=json.encoder:JSONEncoder",
        "function|detect_encoding dump dumps load loads",
        "hidden|codecs decoder detect_encoding encoder scanner",
        "module|codecs decoder=json.decoder encoder=json.encoder scanner=json.scanner",
        "of JSONDecoder|_default_decoder",
        "of JSONEncoder|_default_encoder",
        "of list|__all__",
        "of str|__author__ __version__"]),
    ("keyword",
      ["builtin|iskeyword issoftkeyword",
        "of list|__all__ kwlist softkwlist"]),
    ("logging",
      ["class|BufferingFormatter FileHandler Filter Filterer Formatter",
        "class|GenericAlias=types:GenericAlias Handler LogRecord Logger LoggerAdapter",
        "class|Manager NullHandler PercentStyle PlaceHolder RootLogger StrFormatStyle",
        "class|StreamHandler StringTemplateStyle Template=string:Template _StderrHandler",
        "class|_logRecordFactory=logging:LogRecord _loggerClass=logging:Logger",
        "function|_acquireLock _addHandlerRef _after_at_fork_child_reinit_locks",
        "function|_checkLevel _is_internal_frame _register_at_fork_reinit_lock",
        "function|_releaseLock _removeHandlerRef _showwarning addLevelName basicConfig",
        "function|captureWarnings critical currentframe debug disable error exception",
        "function|fatal getLevelName getLevelNamesMapping getLogRecordFactory getLogger",
        "function|getLoggerClass info log makeLogRecord setLogRecordFactory",
        "function|setLoggerClass shutdown warn warning",
        "hidden|Filterer GenericAlias Manager PercentStyle PlaceHolder RootLogger",
        "hidden|StrFormatStyle StringTemplateStyle Template atexit collections",
        "hidden|currentframe io logMultiprocessing logProcesses logThreads os re root sys",
        "hidden|threading time traceback warnings weakref",
        "module|atexit collections io os re sys threading time traceback warnings weakref",
        "of Formatter|_defaultFormatter _str_formatter",
        "of NoneType|_warnings_showwarning",
        "of RootLogger|root",
        "of WeakSet|_at_fork_reinit_lock_weakset",
        "of WeakValueDictionary|_handlers",
        "of _StderrHandler|_defaultLastResort lastResort",
        "of _thread.RLock|_lock",
        "of bool|logMultiprocessing logProcesses logThreads raiseExceptions",
        "of dict|_STYLES _levelToName _nameToLevel",
        "of float|_startTime",
        "of int|CRITICAL DEBUG ERROR FATAL INFO NOTSET WARN WARNING",
        "of list|__all__ _handlerList",
        "of str|BASIC_FORMAT __author__ __date__ __status__ __version__ _srcfile"]),
    ("math",
      ["builtin|acos acosh asin asinh atan atan2 atanh cbrt ceil comb copysign cos cosh",
        "builtin|degrees dist erf erfc exp exp2 expm1 fabs factorial floor fmod frexp",
        "builtin|fsum gamma gcd hypot isclose isfinite isinf isnan isqrt lcm ldexp lgamma",
        "builtin|log log10 log1p log2 modf nextafter perm pow prod radians remainder sin",
        "builtin|sinh sqrt tan tanh trunc ulp",
        "of float|e inf nan pi tau"]),
    ("numbers",
      ["class|ABCMeta=abc:ABCMeta Complex Integral Number Rational Real",
        "function|abstractmethod",
        "hidden|ABCMeta abstractmethod",
        "of list|__all__"]),
    ("operator",
      ["builtin|__abs__ __add__ __and__ __call__ __concat__ __contains__ __delitem__",
        "builtin|__eq__ __floordiv__ __ge__ __getitem__ __gt__ __iadd__ __iand__",
        "builtin|__iconcat__ __ifloordiv__ __ilshift__ __imatmul__ __imod__ __imul__",
        "builtin|__index__ __inv__ __invert__ __ior__ __ipow__ __irshift__ __isub__",
        "builtin|__itruediv__ __ixor__ __le__ __lshift__ __lt__ __matmul__ __mod__",
        "builtin|__mul__ __ne__ __neg__ __not__ __or__ __pos__ __pow__ __rshift__",
        "builtin|__setitem__ __sub__ __truediv__ __xor__ _abs abs add and_ call concat",
        "builtin|contains countOf delitem eq floordiv ge getitem gt iadd iand iconcat",
        "builtin|ifloordiv ilshift imatmul imod imul index indexOf inv invert ior ipow",
        "builtin|irshift is_ is_not isub itruediv ixor le length_hint lshift lt matmul",
        "builtin|mod mul ne neg not_ or_ pos pow rshift setitem sub truediv truth xor",
        "class|attrgetter itemgetter methodcaller",
        "of list|__all__"]),
    ("os",
      ["builtin|WCOREDUMP WEXITSTATUS WIFCONTINUED WIFEXITED WIFSIGNALED WIFSTOPPED",
        "builtin|WSTOPSIG WTERMSIG _exit abort access chdir chmod chown chroot close",
        "builtin|closerange confstr cpu_count ctermid device_encoding dup dup2 eventfd",
        "builtin|eventfd_read eventfd_write execv execve fchdir fchmod fchown fdatasync",
        "builtin|fork forkpty fpathconf fspath fstat fstatvfs fsync ftruncate",
        "builtin|get_blocking get_inheritable get_terminal_size getcwd getcwdb getegid",
        "builtin|geteuid getgid getgrouplist getgroups getloadavg getlogin getpgid",
        "builtin|getpgrp getpid getppid getpriority getresgid getresuid getsid getuid",
        "builtin|getxattr initgroups isatty kill killpg lchown link listdir listxattr",
        "builtin|lockf login_tty lseek lstat major makedev minor mkdir mkfifo mknod nice",
        "builtin|open openpty pathconf pipe pipe2 posix_fadvise posix_fallocate",
        "builtin|posix_spawn posix_spawnp pread preadv putenv pwrite pwritev read",
        "builtin|readlink readv register_at_fork remove removexattr rename replace rmdir",
        "builtin|scandir sched_get_priority_max sched_get_priority_min sched_getaffinity",
        "builtin|sched_getparam sched_getscheduler sched_rr_get_interval",
        "builtin|sched_setaffinity sched_setparam sched_setscheduler sched_yield sendfile",
        "builtin|set_blocking set_inheritable setegid seteuid setgid setgroups setpgid",
        "builtin|setpgrp setpriority setregid setresgid setresuid setreuid setsid setuid",
        "builtin|setxattr splice stat statvfs strerror symlink sync sysconf system",
        "builtin|tcgetpgrp tcsetpgrp times truncate ttyname umask uname unlink unsetenv",
        "builtin|urandom utime wait wait3 wait4 waitid waitpid waitstatus_to_exitcode",
        "builtin|write writev",
        "class|DirEntry=posix:DirEntry GenericAlias=types:GenericAlias",
        "class|Mapping=collections.abc:Mapping",
        "class|MutableMapping=collections.abc:MutableMapping PathLike _Environ",
        "class|_wrap_close sched_param=posix:sched_param stat_result statvfs_result",
        "class|terminal_size times_result=posix:times_result",
        "class|uname_result=posix:uname_result waitid_result=posix:waitid_result",
        "exception|error=builtins:OSError",
        "function|_check_methods _execvpe _exists _fspath _fwalk _get_exports_list",
        "function|_spawnvef _walk execl execle execlp execlpe execvp execvpe fdopen",
        "function|fsdecode fsencode fwalk get_exec_path getenv getenvb makedirs popen",
        "function|removedirs renames spawnl spawnle spawnlp spawnlpe spawnv spawnve",
        "function|spawnvp spawnvpe walk",
        "hidden|GenericAlias Mapping MutableMapping PathLike abc st supports_dir_fd",
        "hidden|supports_effective_ids supports_fd supports_follow_symlinks sys",
        "module|abc path=posixpath st=stat sys",
        "of NoneType|altsep",
        "of _Environ|environ environb",
        "of bool|supports_bytes_environ",
        "of dict|confstr_names pathconf_names sysconf_names",
        "of int|CLD_CONTINUED CLD_DUMPED CLD_EXITED CLD_KILLED CLD_STOPPED CLD_TRAPPED",
        "of int|EFD_CLOEXEC EFD_NONBLOCK EFD_SEMAPHORE EX_CANTCREAT EX_CONFIG EX_DATAERR",
        "of int|EX_IOERR EX_NOHOST EX_NOINPUT EX_NOPERM EX_NOUSER EX_OK EX_OSERR",
        "of int|EX_OSFILE EX_PROTOCOL EX_SOFTWARE EX_TEMPFAIL EX_UNAVAILABLE EX_USAGE",
        "of int|F_LOCK F_OK F_TEST F_TLOCK F_ULOCK NGROUPS_MAX O_ACCMODE O_APPEND O_ASYNC",
        "of int|O_CLOEXEC O_CREAT O_DIRECT O_DIRECTORY O_DSYNC O_EXCL O_FSYNC O_LARGEFILE",
        "of int|O_NDELAY O_NOATIME O_NOCTTY O_NOFOLLOW O_NONBLOCK O_PATH O_RDONLY O_RDWR",
        "of int|O_RSYNC O_SYNC O_TMPFILE O_TRUNC O_WRONLY POSIX_FADV_DONTNEED",
        "of int|POSIX_FADV_NOREUSE POSIX_FADV_NORMAL POSIX_FADV_RANDOM",
        "of int|POSIX_FADV_SEQUENTIAL POSIX_FADV_WILLNEED POSIX_SPAWN_CLOSE",
        "of int|POSIX_SPAWN_DUP2 POSIX_SPAWN_OPEN PRIO_PGRP PRIO_PROCESS PRIO_USER P_ALL",
        "of int|P_NOWAIT P_NOWAITO P_PGID P_PID P_WAIT RTLD_DEEPBIND RTLD_GLOBAL",
        "of int|RTLD_LAZY RTLD_LOCAL RTLD_NODELETE RTLD_NOLOAD RTLD_NOW R_OK SCHED_BATCH",
        "of int|SCHED_FIFO SCHED_IDLE SCHED_OTHER SCHED_RESET_ON_FORK SCHED_RR SEEK_CUR",
        "of int|SEEK_DATA SEEK_END SEEK_HOLE SEEK_SET SPLICE_F_MORE SPLICE_F_MOVE",
        "of int|SPLICE_F_NONBLOCK ST_APPEND ST_MANDLOCK ST_NOATIME ST_NODEV ST_NODIRATIME",
        "of int|ST_NOEXEC ST_NOSUID ST_RDONLY ST_RELATIME ST_SYNCHRONOUS ST_WRITE TMP_MAX",
        "of int|WCONTINUED WEXITED WNOHANG WNOWAIT WSTOPPED WUNTRACED W_OK XATTR_CREATE",
        "of int|XATTR_REPLACE XATTR_SIZE_MAX X_OK",
        "of list|__all__",
        "of set|supports_dir_fd supports_effective_ids supports_fd",
        "of set|supports_follow_symlinks",
        "of str|curdir defpath devnull extsep linesep name pardir pathsep sep"]),
    ("pathlib",
      ["builtin|S_ISBLK S_ISCHR S_ISDIR S_ISFIFO S_ISLNK S_ISREG S_ISSOCK",
        "callable|_make_selector",
        "class|Path PosixPath PurePath PurePosixPath PureWindowsPath",
        "class|Sequence=collections.abc:Sequence WindowsPath _Flavour _PathParents",
        "class|_PosixFlavour _PreciseSelector _RecursiveWildcardSelector _Selector",
        "class|_TerminatingSelector _WildcardSelector _WindowsFlavour",
        "class|attrgetter=operator:attrgetter",
        "function|_ignore_error _is_wildcard_pattern urlquote_from_bytes",
        "hidden|EBADF ELOOP ENOENT ENOTDIR S_ISBLK S_ISCHR S_ISDIR S_ISFIFO S_ISLNK",
        "hidden|S_ISREG S_ISSOCK Sequence attrgetter fnmatch functools io ntpath os",
        "hidden|posixpath re sys urlquote_from_bytes warnings",
        "module|fnmatch functools io ntpath os posixpath re sys warnings",
        "of _PosixFlavour|_posix_flavour",
        "of _WindowsFlavour|_windows_flavour",
        "of int|EBADF ELOOP ENOENT ENOTDIR _WINERROR_CANT_RESOLVE_FILENAME",
        "of int|_WINERROR_INVALID_NAME _WINERROR_NOT_READY",
        "of list|__all__",
        "of tuple|_IGNORED_ERRNOS _IGNORED_WINERRORS"]),
    ("queue",
      ["builtin|heappop heappush time",
        "class|LifoQueue PriorityQueue Queue SimpleQueue=_queue:SimpleQueue",
        "class|_PySimpleQueue deque=collections:deque",
        "exception|Empty=_queue:Empty Full",
        "hidden|deque heappop heappush threading time types",
        "module|threading types",
        "of list|__all__"]),
    ("random",
      ["builtin|_acos _bisect _ceil _cos _exp _floor _index _isfinite _log _sha512 _sin",
        "builtin|_sqrt _urandom _warn getrandbits random",
        "callable|betavariate choice choices expovariate gammavariate gauss getstate",
        "callable|lognormvariate normalvariate paretovariate randbytes randint randrange",
        "callable|sample seed setstate shuffle triangular uniform vonmisesvariate",
        "callable|weibullvariate",
        "class|Random SystemRandom _Sequence=collections.abc:Sequence",
        "class|_Set=collections.abc:Set _accumulate=itertools:accumulate",
        "class|_repeat=itertools:repeat",
        "function|_test _test_generator",
        "hidden|BPF LOG4 NV_MAGICCONST RECIP_BPF SG_MAGICCONST TWOPI",
        "module|_os=os _random",
        "of Random|_inst",
        "of float|LOG4 NV_MAGICCONST RECIP_BPF SG_MAGICCONST TWOPI _e _pi",
        "of int|BPF _ONE",
        "of list|__all__"]),
    ("re",
      ["callable|_compile_repl",
        "class|Match Pattern RegexFlag Scanner",
        "exception|error",
        "function|_compile _expand _pickle _subx compile escape findall finditer",
        "function|fullmatch match purge search split sub subn template",
        "hidden|DEBUG Scanner T TEMPLATE copyreg enum functools",
        "module|_casefix=re._casefix _compiler=re._compiler _constants=re._constants",
        "module|_parser=re._parser copyreg enum functools",
        "of RegexFlag|A ASCII DEBUG DOTALL I IGNORECASE L LOCALE M MULTILINE NOFLAG S T",
        "of RegexFlag|TEMPLATE U UNICODE VERBOSE X",
        "of dict|_cache _special_chars_map",
        "of int|_MAXCACHE",
        "of list|__all__",
        "of str|__version__"]),
    ("secrets",
      ["builtin|compare_digest",
        "callable|choice randbits",
        "class|SystemRandom=random:SystemRandom",
        "function|randbelow token_bytes token_hex token_urlsafe",
        "hidden|DEFAULT_ENTROPY base64 binascii",
        "module|base64 binascii",
        "of SystemRandom|_sysrand",
        "of int|DEFAULT_ENTROPY",
        "of list|__all__"]),
    ("shutil",
      ["class|_ntuple_diskusage=shutil:usage",
        "exception|Error ExecError ReadError RegistryError SameFileError SpecialFileError",
        "exception|_GiveupOnFastCopy",
        "function|_access_check _basename _check_unpack_options _copyfileobj_readinto",
        "function|_copytree _copyxattr _destinsrc _ensure_directory _fastcopy_fcopyfile",
        "function|_fastcopy_sendfile _find_unpack_format _get_gid _get_uid _is_immutable",
        "function|_islink _make_tarball _make_zipfile _rmtree_isdir _rmtree_islink",
        "function|_rmtree_safe_fd _rmtree_unsafe _samefile _stat _unpack_tarfile",
        "function|_unpack_zipfile chown copy copy2 copyfile copyfileobj copymode copystat",
        "function|copytree disk_usage get_archive_formats get_terminal_size",
        "function|get_unpack_formats ignore_patterns make_archive move",
        "function|register_archive_format register_unpack_format rmtree unpack_archive",
        "function|unregister_archive_format unregister_unpack_format which",
        "hidden|COPY_BUFSIZE ReadError RegistryError collections errno fnmatch nt os",
        "hidden|posix stat sys",
        "module|collections errno fnmatch os posix stat sys",
        "of NoneType|nt",
        "of bool|_BZ2_SUPPORTED _HAS_FCOPYFILE _LZMA_SUPPORTED _USE_CP_SENDFILE _WINDOWS",
        "of bool|_ZLIB_SUPPORTED _use_fd_functions",
        "of dict|_ARCHIVE_FORMATS _UNPACK_FORMATS",
        "of int|COPY_BUFSIZE",
        "of list|__all__",
        "of str|_WIN_DEFAULT_PATHEXT"]),
    ("statistics",
      ["builtin|_normal_dist_inv_cdf bisect_left bisect_right erf exp fabs fsum hypot",
        "builtin|log mul reduce sqrt",
        "class|Counter=collections:Counter Decimal=decimal:Decimal",
        "class|Fraction=fractions:Fraction LinearRegression NormalDist",
        "class|defaultdict=collections:defaultdict groupby=itertools:groupby",
        "class|repeat=itertools:repeat",
        "exception|StatisticsError",
        "function|_coerce _convert _decimal_sqrt_of_frac _exact_ratio _fail_neg",
        "function|_float_sqrt_of_frac _integer_sqrt_of_frac_rto _isfinite _mean_stdev _ss",
        "function|_sum correlation covariance fmean geometric_mean harmonic_mean",
        "function|linear_regression mean median median_grouped median_high median_low",
        "function|mode multimode namedtuple pstdev pvariance quantiles stdev variance",
        "hidden|Counter Decimal Fraction LinearRegression bisect_left bisect_right",
        "hidden|defaultdict erf exp fabs fsum groupby hypot log math mul namedtuple",
        "hidden|numbers random reduce repeat sqrt sys tau",
        "module|math numbers random sys",
        "of dict|__annotations__",
        "of float|_SQRT2 tau",
        "of int|_sqrt_bit_width",
        "of list|__all__"]),
    ("string",
      ["class|Formatter Template _ChainMap=collections:ChainMap",
        "function|capwords",
        "module|_re=re _string",
        "of dict|_sentinel_dict",
        "of list|__all__",
        "of str|ascii_letters ascii_lowercase ascii_uppercase digits hexdigits octdigits",
        "of str|printable punctuation whitespace"]),
    ("struct",
      ["builtin|_clearcache calcsize iter_unpack pack pack_into unpack unpack_from",
        "class|Struct=_struct:Struct",
        "exception|error",
        "of list|__all__"]),
    ("sys",
      ["builtin|__breakpointhook__ __displayhook__ __excepthook__ __unraisablehook__",
        "builtin|_clear_type_cache _current_exceptions _current_frames _debugmallocstats",
        "builtin|_getframe _getquickenedcount addaudithook audit breakpointhook",
        "builtin|call_tracing displayhook exc_info excepthook exception exit",
        "builtin|get_asyncgen_hooks get_coroutine_origin_tracking_depth",
        "builtin|get_int_max_str_digits getallocatedblocks getdefaultencoding",
        "builtin|getdlopenflags getfilesystemencodeerrors getfilesystemencoding",
        "builtin|getprofile getrecursionlimit getrefcount getsizeof getswitchinterval",
        "builtin|gettrace intern is_finalizing set_asyncgen_hooks",
        "builtin|set_coroutine_origin_tracking_depth set_int_max_str_digits",
        "builtin|setdlopenflags setprofile setrecursionlimit setswitchinterval settrace",
        "builtin|unraisablehook",
        "function|__interactivehook__",
        "of NoneType|_home pycache_prefix",
        "of _io.TextIOWrapper|__stderr__ __stdin__ __stdout__ stderr stdin stdout",
        "of bool|dont_write_bytecode",
        "of dict|_xoptions modules path_importer_cache",
        "of frozenset|stdlib_module_names",
        "of int|api_version hexversion maxsize maxunicode",
        "of list|argv meta_path orig_argv path path_hooks warnoptions",
        "of str|_base_executable _framework _stdlib_dir abiflags base_exec_prefix",
        "of str|base_prefix byteorder copyright exec_prefix executable float_repr_style",
        "of str|platform platlibdir prefix version",
        "of sys.flags|flags",
        "of sys.float_info|float_info",
        "of sys.hash_info|hash_info",
        "of sys.int_info|int_info",
        "of sys.thread_info|thread_info",
        "of sys.version_info|version_info",
        "of tuple|_git builtin_module_names",
        "of types.SimpleNamespace|implementation"]),
    ("tempfile",
      ["builtin|_allocate_lock",
        "class|SpooledTemporaryFile TemporaryDirectory _Random=random:Random",
        "class|_RandomNameSequence _TemporaryFileCloser _TemporaryFileWrapper",
        "function|NamedTemporaryFile TemporaryFile _candidate_tempdir_list",
        "function|_dont_follow_symlinks _exists _get_candidate_names _get_default_tempdir",
        "function|_gettempdir _infer_return_type _mkstemp_inner _resetperms",
        "function|_sanitize_params gettempdir gettempdirb gettempprefix gettempprefixb",
        "function|mkdtemp mkstemp mktemp",
        "hidden|template",
        "module|_errno=errno _functools=functools _io=io _os=os _shutil=shutil _stat=stat",
        "module|_sys=sys _thread _types=types _warnings=warnings _weakref=weakref",
        "of NoneType|_name_sequence tempdir",
        "of _thread.lock|_once_lock",
        "of bool|_O_TMPFILE_WORKS",
        "of int|TMP_MAX _bin_openflags _text_openflags",
        "of list|__all__",
        "of str|template"]),
    ("textwrap",
      ["class|TextWrapper",
        "function|dedent fill indent shorten wrap",
        "hidden|re",
        "module|re",
        "of list|__all__",
        "of re.Pattern|_leading_whitespace_re _whitespace_only_re",
        "of str|_whitespace"]),
    ("threading",
      ["builtin|Lock __excepthook__ _allocate_lock _set_sentinel _start_new_thread _time",
        "builtin|excepthook get_ident get_native_id stack_size",
        "callable|_counter",
        "class|Barrier BoundedSemaphore Condition Event",
        "class|ExceptHookArgs=_thread:_ExceptHookArgs Semaphore Thread Timer",
        "class|WeakSet=_weakrefset:WeakSet _CRLock=_thread:RLock _DummyThread _MainThread",
        "class|_PyRLock=threading:_RLock _RLock _count=itertools:count",
        "class|_deque=collections:deque _islice=itertools:islice local=_thread:_local",
        "exception|BrokenBarrierError ThreadError=builtins:RuntimeError",
        "function|RLock _after_fork _enumerate _maintain_shutdown_locks",
        "function|_make_invoke_excepthook _newname _register_atexit _shutdown activeCount",
        "function|active_count currentThread current_thread enumerate getprofile gettrace",
        "function|main_thread setprofile settrace",
        "hidden|WeakSet activeCount currentThread functools",
        "module|_os=os _sys=sys functools",
        "of NoneType|_profile_hook _trace_hook",
        "of WeakSet|_dangling",
        "of _MainThread|_main_thread",
        "of _thread.RLock|_active_limbo_lock",
        "of _thread.lock|_shutdown_locks_lock",
        "of bool|_HAVE_THREAD_NATIVE_ID _SHUTTING_DOWN",
        "of dict|_active _limbo",
        "of float|TIMEOUT_MAX",
        "of list|__all__ _threading_atexits",
        "of set|_shutdown_locks"]),
    ("time",
      ["builtin|asctime clock_getres clock_gettime clock_gettime_ns clock_settime",
        "builtin|clock_settime_ns ctime get_clock_info gmtime localtime mktime monotonic",
        "builtin|monotonic_ns perf_counter perf_counter_ns process_time process_time_ns",
        "builtin|pthread_getcpuclockid sleep strftime strptime thread_time thread_time_ns",
        "builtin|time time_ns tzset",
        "class|struct_time",
        "of int|CLOCK_BOOTTIME CLOCK_MONOTONIC CLOCK_MONOTONIC_RAW",
        "of int|CLOCK_PROCESS_CPUTIME_ID CLOCK_REALTIME CLOCK_THREAD_CPUTIME_ID",
        "of int|_STRUCT_TM_ITEMS altzone daylight timezone",
        "of tuple|tzname"]),
    ("traceback",
      ["class|FrameSummary StackSummary TracebackException _Anchors",
        "class|_ExceptionPrintContext _Sentinel suppress=contextlib:suppress",
        "function|_byte_offset_to_character_offset _display_width",
        "function|_extract_caret_anchors_from_line_segment _format_final_exc_line",
        "function|_get_code_position _parse_value_tb _safe_string",
        "function|_walk_tb_with_full_positions clear_frames extract_stack extract_tb",
        "function|format_exc format_exception format_exception_only format_list",
        "function|format_stack format_tb print_exc print_exception print_last print_list",
        "function|print_stack print_tb walk_stack walk_tb",
        "hidden|collections itertools linecache print_list suppress sys textwrap",
        "module|collections itertools linecache sys textwrap",
        "of _Sentinel|_sentinel",
        "of int|_RECURSIVE_CUTOFF",
        "of list|__all__",
        "of str|_WIDE_CHAR_SPECIFIERS _cause_message _context_message"]),
    ("types",
      ["class|AsyncGeneratorType=builtins:async_generator",
        "class|BuiltinFunctionType=builtins:builtin_function_or_method",
        "class|BuiltinMethodType=builtins:builtin_function_or_method",
        "class|CellType=builtins:cell",
        "class|ClassMethodDescriptorType=builtins:classmethod_descriptor",
        "class|CodeType=builtins:code CoroutineType=builtins:coroutine",
        "class|DynamicClassAttribute EllipsisType=builtins:ellipsis",
        "class|FrameType=builtins:frame FunctionType=builtins:function",
        "class|GeneratorType=builtins:generator GenericAlias",
        "class|GetSetDescriptorType=builtins:getset_descriptor",
        "class|LambdaType=builtins:function MappingProxyType=builtins:mappingproxy",
        "class|MemberDescriptorType=builtins:member_descriptor",
        "class|MethodDescriptorType=builtins:method_descriptor MethodType=builtins:method",
        "class|MethodWrapperType=builtins:method-wrapper ModuleType=builtins:module",
        "class|NoneType=builtins:NoneType NotImplementedType=builtins:NotImplementedType",
        "class|SimpleNamespace TracebackType=builtins:traceback UnionType",
        "class|WrapperDescriptorType=builtins:wrapper_descriptor _GeneratorWrapper",
        "function|_calculate_meta _cell_factory coroutine new_class prepare_class",
        "function|resolve_bases",
        "of list|__all__"]),
    ("typing",
      ["builtin|_idfunc",
        "callable|Callable",
        "callable|Literal",
        "callable|ClassVar Concatenate Final LiteralString Never NoReturn NotRequired",
        "callable|Optional Required Self TypeAlias TypeGuard Union Unpack",
        "callable|AbstractSet AsyncContextManager AsyncGenerator AsyncIterable",
        "callable|AsyncIterator Awaitable ByteString ChainMap Collection Container",
        "callable|ContextManager Coroutine Counter DefaultDict Deque Dict FrozenSet",
        "callable|Generator Hashable ItemsView Iterable Iterator KeysView List Mapping",
        "callable|MappingView Match MutableMapping MutableSequence MutableSet OrderedDict",
        "callable|Pattern Reversible Sequence Set Sized Type ValuesView",
        "callable|Tuple",
        "class|ABCMeta=abc:ABCMeta Annotated Any BinaryIO ForwardRef Generic",
        "class|GenericAlias=types:GenericAlias IO",
        "class|MethodDescriptorType=builtins:method_descriptor",
        "class|MethodWrapperType=builtins:method-wrapper NamedTupleMeta NewType ParamSpec",
        "class|ParamSpecArgs ParamSpecKwargs Protocol SupportsAbs SupportsBytes",
        "class|SupportsComplex SupportsFloat SupportsIndex SupportsInt SupportsRound",
        "class|Text=builtins:str TextIO TypeVar TypeVarTuple",
        "class|WrapperDescriptorType=builtins:wrapper_descriptor _AnnotatedAlias _AnyMeta",
        "class|_BaseGenericAlias _BoundVarianceMixin _CallableGenericAlias _CallableType",
        "class|_ConcatenateGenericAlias _DeprecatedType _Final _GenericAlias _Immutable",
        "class|_LiteralGenericAlias _LiteralSpecialForm _NamedTuple=typing:NamedTuple",
        "class|_NotIterable _PickleUsingNameMixin _ProtocolMeta _SpecialForm",
        "class|_SpecialGenericAlias _TupleType _TypedDict=typing:TypedDict _TypedDictMeta",
        "class|_TypingEllipsis _UnionGenericAlias _UnpackGenericAlias",
        "class|_alias=typing:_SpecialGenericAlias defaultdict=collections:defaultdict io",
        "class|re",
        "function|NamedTuple TypedDict _allow_reckless_class_checks _caller",
        "function|_check_generic _collect_parameters _compare_args_orderless _deduplicate",
        "function|_deduplicate_unhashable _eval_type _flatten_literal_params",
        "function|_get_protocol_attrs _is_callable_members_only _is_dunder _is_param_expr",
        "function|_is_typevar_like _is_unpacked_typevartuple _make_nmtuple",
        "function|_namedtuple_mro_entries _no_init_or_replace_init _overload_dummy",
        "function|_remove_dups_flatten _should_unflatten_callable_args _strip_annotations",
        "function|_tp_cache _type_check _type_convert _type_repr _unpack_args",
        "function|_value_and_type_iter abstractmethod assert_never assert_type cast",
        "function|clear_overloads dataclass_transform final get_args get_origin",
        "function|get_overloads get_type_hints is_typeddict no_type_check",
        "function|no_type_check_decorator overload reveal_type runtime_checkable",
        "hidden|ABCMeta CT_co EXCLUDED_ATTRIBUTES GenericAlias KT MethodDescriptorType",
        "hidden|MethodWrapperType NamedTupleMeta T T_co T_contra VT VT_co V_co",
        "hidden|WrapperDescriptorType abstractmethod collections contextlib defaultdict",
        "hidden|functools io operator re stdlib_re sys types warnings",
        "module|collections contextlib functools operator stdlib_re=re sys types warnings",
        "of TypeVar|AnyStr CT_co KT T T_co T_contra VT VT_co V_co",
        "of bool|TYPE_CHECKING",
        "of collections.defaultdict|_overload_registry",
        "of dict|_PROTO_ALLOWLIST",
        "of frozenset|_prohibited _special",
        "of int|_ASSERT_NEVER_REPR_MAX_LENGTH",
        "of list|EXCLUDED_ATTRIBUTES _SPECIAL_NAMES _TYPING_INTERNALS __all__ _cleanups",
        "of tuple|_allowed_types"]),
    ("uuid",
      ["builtin|_generate_time_safe",
        "class|Enum=enum:Enum SafeUUID UUID bytes_=builtins:bytes int_=builtins:int",
        "function|_arp_getnode _find_mac_near_keyword _find_mac_under_heading",
        "function|_get_command_stdout _ifconfig_getnode _ip_getnode _ipconfig_getnode",
        "function|_is_universal _lanscan_getnode _load_system_functions _netbios_getnode",
        "function|_netstat_getnode _parse_mac _random_getnode _simple_enum _unix_getnode",
        "function|_windll_getnode getnode uuid1 uuid3 uuid4 uuid5",
        "module|_uuid os platform sys",
        "of NoneType|_UuidCreate _last_timestamp _node",
        "of UUID|NAMESPACE_DNS NAMESPACE_OID NAMESPACE_URL NAMESPACE_X500",
        "of bool|_AIX _LINUX _MAC_OMITS_LEADING_ZEROES",
        "of bytes|_MAC_DELIM",
        "of int|_has_uuid_generate_time_safe",
        "of list|_GETTERS _OS_GETTERS",
        "of str|RESERVED_FUTURE RESERVED_MICROSOFT RESERVED_NCS RFC_4122 __author__",
        "of str|_platform_system"]),
    ("warnings",
      ["builtin|_filters_mutated warn warn_explicit",
        "class|WarningMessage catch_warnings",
        "exception|_OptionError",
        "function|_add_filter _deprecated _formatwarning_orig _formatwarnmsg",
        "function|_formatwarnmsg_impl _getaction _getcategory _is_internal_frame",
        "function|_next_external_frame _processoptions _setoption _showwarning_orig",
        "function|_showwarnmsg _showwarnmsg_impl _warn_unawaited_coroutine filterwarnings",
        "function|formatwarning resetwarnings showwarning simplefilter",
        "hidden|WarningMessage defaultaction filters onceregistry sys",
        "module|sys",
        "of dict|_onceregistry onceregistry",
        "of list|__all__ filters",
        "of str|_DEPRECATED_MSG _defaultaction defaultaction"]),
    ("zoneinfo",
      ["class|ZoneInfo ZoneInfoNotFoundError=zoneinfo._common:ZoneInfoNotFoundError",
        "exception|InvalidTZPathWarning=zoneinfo._tzpath:InvalidTZPathWarning",
        "function|__dir__ __getattr__ available_timezones reset_tzpath",
        "module|_common=zoneinfo._common _tzpath=zoneinfo._tzpath",
        "of list|__all__",
        "of tuple|TZPATH"]) ]

end SqlScaffold.Load
